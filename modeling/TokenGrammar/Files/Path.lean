/-!
Paths of files, as text: their folders, and how a path continues another.
-/

namespace TokenGrammar

namespace Path

def isAbsolute (path : String) : Bool := path.toList.head? = some '/'

def trimBackwards : List Char → List Char
  | ['/'] => ['/']
  | '/' :: rest => trimBackwards rest
  | '.' :: '/' :: rest => trimBackwards ('/' :: rest)
  | path => path

/-- The folder of a path; the root and the empty path have none. A plain name lies in the folder with
the empty path. -/
def folder? (path : String) : Option String :=
  match trimBackwards path.toList.reverse with
  | [] | ['/'] => none
  | backwards =>
      some (String.ofList (trimBackwards (backwards.dropWhile (· ≠ '/'))).reverse)

def within (folder path : String) : String :=
  if isAbsolute path then path
  else if folder.isEmpty || folder.toList.getLast? = some '/' then folder ++ path
  else folder ++ "/" ++ path

def parts (path : String) : List String := (path.splitOn "/")

end Path

end TokenGrammar
