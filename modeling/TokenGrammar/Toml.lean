import TokenGrammar.Toml.Table
/-!
Reading TOML: lines that open tables or give keys their values. Arrays and inline tables nest to a
limited depth.
-/

namespace TokenGrammar

namespace Toml

def skipSpaces (text : List Char) : List Char := text.dropWhile isSpace

def skipFiller (comment : Bool) : List Char → Option (List Char)
  | [] => some []
  | character :: rest =>
      if character = '\n' then skipFiller false rest
      else if comment then if isPlain character then skipFiller true rest else none
      else if isSpace character then skipFiller false rest
      else if character = '#' then skipFiller true rest
      else some (character :: rest)

def skipLineEnd (text : List Char) : Option (List Char) :=
  let rest := match skipSpaces text with
    | '#' :: comment => comment.dropWhile isPlain
    | other => other
  match rest with
  | [] => some []
  | '\n' :: next => some next
  | _ => none

def isBare (character : Char) : Bool :=
  character.isAlphanum || character = '_' || character = '-'

def bareKey (text : List Char) : Option (String × List Char) :=
  let key := text.takeWhile isBare
  if key.isEmpty then none else some (String.ofList key, text.drop key.length)

def key : Scan String
  | '"' :: rest => (basic rest).map fun (found, left) => (String.ofList found, left)
  | '\'' :: rest => (literal rest).map fun (found, left) => (String.ofList found, left)
  | text => bareKey text

def keysWithin : Nat → Scan (List String × String)
  | 0, _ => none
  | limit + 1, text =>
      (key text).bind fun (first, left) =>
        match skipSpaces left with
        | '.' :: rest =>
            (keysWithin limit (skipSpaces rest)).map fun ((path, last), left) =>
              ((first :: path, last), left)
        | left => some (([], first), left)

/-- How deeply arrays and inline tables nest, and how many parts a key has, stays below this. -/
def nestingLimit : Nat := 80

def keys : Scan (List String × String) := keysWithin (nestingLimit - 1)

def assignment (value : Scan Value) : Scan ((List String × String) × Value) := fun text =>
  (keys text).bind fun (target, left) =>
    match skipSpaces left with
    | '=' :: rest => (value (skipSpaces rest)).map fun (found, left) => ((target, found), left)
    | _ => none

/-- The items of an array behind its opening bracket. Every item takes a character at least, so that a
`budget` of the length of the text is enough. -/
def itemsWithin (value : Scan Value) : Nat → Scan (List Value)
  | 0, _ => none
  | budget + 1, text =>
      (skipFiller false text).bind fun
        | ']' :: rest => some ([], rest)
        | item =>
            (value item).bind fun (found, left) =>
              (skipFiller false left).bind fun
                | ',' :: rest =>
                    (itemsWithin value budget rest).map fun (others, left) => (found :: others, left)
                | ']' :: rest => some ([found], rest)
                | _ => none

def fieldsWithin (value : Scan Value) : Nat → Entries → Scan Entries
  | 0, _, _ => none
  | budget + 1, entries, text =>
      (assignment value text).bind fun (((path, key), found), left) =>
        (entries.assign path key found).bind fun extended =>
          match skipSpaces left with
          | ',' :: rest => fieldsWithin value budget extended (skipSpaces rest)
          | '}' :: rest => some (extended, rest)
          | _ => none

def fields (value : Scan Value) (text : List Char) : Option (Entries × List Char) :=
  match skipSpaces text with
  | '}' :: rest => some ([], rest)
  | first => fieldsWithin value (first.length + 1) [] first

def isScalarCharacter (character : Char) : Bool :=
  isBare character || character = '+' || character = '.' || character = ':'

def scalar (text : List Char) : Option (Value × List Char) :=
  let word := text.takeWhile isScalarCharacter
  let left := text.drop word.length
  if word = "true".toList then some (.boolean true, left)
  else if word = "false".toList then some (.boolean false, left)
  else if isInteger word || isFloat word then some (.number, left)
  else if isDate word then
    match left with
    | ' ' :: digit :: rest =>
        if digit.isDigit then
          let time := (digit :: rest).takeWhile isScalarCharacter
          if isTimeOfDay time then some (.moment, (digit :: rest).drop time.length) else none
        else some (.moment, left)
    | _ => some (.moment, left)
  else if isMoment word then some (.moment, left)
  else none

def valueWithin : Nat → Scan Value
  | 0, _ => none
  | limit + 1, text =>
      match text with
      | '[' :: rest =>
          if limit = 0 then none
          else
            (itemsWithin (valueWithin limit) (rest.length + 1) rest).map fun (items, left) =>
              (.array items, left)
      | '{' :: rest =>
          if limit = 0 then none
          else
            (fields (valueWithin limit) rest).map fun (entries, left) =>
              (.table (valuesOf entries), left)
      | '"' :: _ | '\'' :: _ =>
          (text? text).map fun (found, left) => (.text (String.ofList found), left)
      | _ => scalar text

def value : Scan Value := valueWithin nestingLimit

structure Document where
  root : Entries
  current : List String

def Document.assign (document : Document) (path : List String) (key : String) (value : Value) :
    Option Document :=
  (Entries.descend false (fun _ entries => entries.assign path key value) document.current .opened
    document.root).map fun root => ⟨root, document.current⟩

def line (document : Document) : Scan Document
  | '[' :: '[' :: rest =>
      (keys (skipSpaces rest)).bind fun ((path, key), left) =>
        match skipSpaces left with
        | ']' :: ']' :: rest =>
            (document.root.openElement path key).map fun root => (⟨root, path ++ [key]⟩, rest)
        | _ => none
  | '[' :: rest =>
      (keys (skipSpaces rest)).bind fun ((path, key), left) =>
        match skipSpaces left with
        | ']' :: rest =>
            (document.root.openTable path key).map fun root => (⟨root, path ++ [key]⟩, rest)
        | _ => none
  | text =>
      match text with
      | [] | '\n' :: _ | '#' :: _ => some (document, text)
      | _ =>
          (assignment value text).bind fun (((path, key), found), left) =>
            (document.assign path key found).map fun extended => (extended, left)

def linesWithin : Nat → Document → List Char → Option Document
  | _, document, [] => some document
  | 0, _, _ :: _ => none
  | budget + 1, document, text =>
      (line document (skipSpaces text)).bind fun (extended, left) =>
        (skipLineEnd left).bind fun rest => linesWithin budget extended rest

def parse (text : List Char) : Option (List (String × Value)) :=
  let unmarked := if text.head? = some '\ufeff' then text.drop 1 else text
  (withLineFeeds? unmarked).bind fun source =>
    (linesWithin source.length ⟨[], []⟩ source).map fun document => valuesOf document.root

end Toml

end TokenGrammar
