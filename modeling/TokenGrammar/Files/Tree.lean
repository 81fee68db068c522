import TokenGrammar.Files
import TokenGrammar.Files.Path
/-!
Files held in memory: a tree of folders, and the answers that a file system with this tree would give.
-/

namespace TokenGrammar

inductive FileTree where
  | file (text : String)
  | folder (entries : List (String × FileTree))

namespace FileTree

def emptyFolder : FileTree := .folder []

def change (name : String) (next : Option FileTree → FileTree) :
    List (String × FileTree) → List (String × FileTree)
  | [] => [(name, next none)]
  | (found, tree) :: rest =>
      if found = name then (name, next (some tree)) :: rest else (found, tree) :: change name next rest

def update (next : Option FileTree → FileTree) : List String → Option FileTree → FileTree
  | [], found => next found
  | name :: path, found =>
      let entries := match found with
        | some (.folder entries) => entries
        | _ => []
      .folder (change name (update next path) entries)

def makeFolder (path : List String) (root : FileTree) : FileTree :=
  update (fun found => found.getD emptyFolder) path (some root)

def write (text : String) (path : List String) (root : FileTree) : FileTree :=
  update (fun _ => .file text) path (some root)

def enter (state : FileTree × List String) (part : String) : FileTree × List String :=
  let (root, here) := state
  if part = "" || part = "." then (root, here)
  else if part = ".." then (root, here.dropLast)
  else (makeFolder (here ++ [part]) root, here ++ [part])

def startOf (working path : String) : List String := if Path.isAbsolute path then [] else [working]

def addFile (working : String) (root : FileTree) (path text : String) : FileTree :=
  let parts := Path.parts path
  let (root, here) := parts.dropLast.foldl enter (root, startOf working path)
  write text (here ++ parts.getLast?.toList) root

def ofFiles (working : String) (files : List (String × String)) : FileTree :=
  files.foldl (fun root (path, text) => addFile working root path text)
    (makeFolder [working] emptyFolder)

def longestName : Nat := 255

def longestPath : Nat := 4095

/-- Follows the parts of a path from a tree; `above` are the folders around it, nearest first. Nothing
follows a file, not even an empty part. -/
def walk (above : List FileTree) (here : FileTree) : List String → Except FileError FileTree
  | [] => .ok here
  | part :: rest =>
      match here with
      | .file _ => .error .notFolder
      | .folder entries =>
          if part = "" || part = "." then walk above here rest
          else if part = ".." then
            match above with
            | [] => walk [] here rest
            | outer :: others => walk others outer rest
          else if longestName < part.utf8ByteSize then .error .nameTooLong
          else
            match entries.lookup part with
            | some tree => walk (here :: above) tree rest
            | none => .error .notFound

def find (working : String) (root : FileTree) (path : String) : Except FileError FileTree :=
  if path.toList.contains '\x00' then .error .unusablePath
  else if path.isEmpty then .error .notFound
  else if longestPath < path.utf8ByteSize then .error .nameTooLong
  else walk [] root (startOf working path ++ Path.parts path)

def readText (working : String) (root : FileTree) (path : String) : Except FileError String :=
  match find working root path with
  | .ok (.file text) => .ok text
  | .ok (.folder _) => .error .isFolder
  | .error problem => .error problem

def files (working : String) (root : FileTree) : Files Id where
  readText path := readText working root path
  isPresent path := match find working root path with
    | .ok _ => true
    | .error _ => false
  isFile path := match find working root path with
    | .ok (.file _) => true
    | _ => false

end FileTree

end TokenGrammar
