import TokenGrammar.Toml.Scalar
/-!
Strings of TOML: literal ones and ones with escapes, on one line or on several. Each scanner starts
behind the opening quotes and gives the string and what follows the closing quotes. The lines of the
text end in line feeds alone.
-/

namespace TokenGrammar

namespace Toml

abbrev Scan (α : Type) := List Char → Option (α × List Char)

/-- Line feeds in place of carriage returns with line feeds; a carriage return alone is refused. -/
def withLineFeeds? : List Char → Option (List Char)
  | [] => some []
  | character :: rest =>
      if character = '\r' then
        if rest.head? = some '\n' then withLineFeeds? rest else none
      else (withLineFeeds? rest).map (character :: ·)

def isPlain (character : Char) : Bool :=
  character = '\t' || (32 ≤ character.toNat && character.toNat ≠ 127)

def isSpace (character : Char) : Bool := character = ' ' || character = '\t'

inductive TextState where
  | between
  | escape
  | code (missing : Nat) (value : Nat)
  | lineEnd
  | trimming

def escaped? (character : Char) : Option Char :=
  match character with
  | 'b' => some '\x08'
  | 't' => some '\t'
  | 'n' => some '\n'
  | 'f' => some '\x0c'
  | 'r' => some '\r'
  | '"' => some '"'
  | '\\' => some '\\'
  | _ => none

def scalar? (value : Nat) : Option Char :=
  if valid : value.isValidChar then some (Char.ofNatAux value valid) else none

/-- Where a character leads, and the characters of the string that it finishes. A line feed counts only
if the string may have `several` lines. -/
def textStep (several : Bool) (state : TextState) (character : Char) :
    Option (TextState × List Char) :=
  match state with
  | .between =>
      if character = '\\' then some (.escape, [])
      else if isPlain character || (several && character = '\n') then some (.between, [character])
      else none
  | .escape =>
      if character = 'u' then some (.code 4 0, [])
      else if character = 'U' then some (.code 8 0, [])
      else if several && character = '\n' then some (.trimming, [])
      else if several && isSpace character then some (.lineEnd, [])
      else (escaped? character).map fun found => (.between, [found])
  | .code missing value =>
      (digitIn 16 character).bind fun digit =>
        let next := value * 16 + digit
        if missing ≤ 1 then (scalar? next).map fun found => (.between, [found])
        else some (.code (missing - 1) next, [])
  | .lineEnd =>
      if character = '\n' then some (.trimming, [])
      else if isSpace character then some (.lineEnd, [])
      else none
  | .trimming =>
      if character = '\n' || isSpace character then some (.trimming, [])
      else if character = '\\' then some (.escape, [])
      else if isPlain character then some (.between, [character])
      else none

def TextState.canClose : TextState → Bool
  | .between | .trimming => true
  | _ => false

def prepend (found : List Char) (outcome : Option (List Char × List Char)) :
    Option (List Char × List Char) :=
  outcome.map fun (text, left) => (found ++ text, left)

/-- Three quotes close a string of several lines; up to two more belong to it. -/
def closing? (quote : Char) (text : List Char) : Option (List Char × List Char) :=
  let quotes := text.takeWhile (· = quote)
  if quotes.length < 3 then none
  else
    let inside := min (quotes.length - 3) 2
    some (List.replicate inside quote, text.drop (inside + 3))

def literal : Scan (List Char)
  | [] => none
  | character :: rest =>
      if character = '\'' then some ([], rest)
      else if isPlain character then prepend [character] (literal rest)
      else none

def literalLines : Scan (List Char)
  | [] => none
  | character :: rest =>
      match closing? '\'' (character :: rest) with
      | some outcome => some outcome
      | none =>
          if isPlain character || character = '\n' then prepend [character] (literalLines rest)
          else none

def basicFrom (state : TextState) : Scan (List Char)
  | [] => none
  | character :: rest =>
      if state.canClose && character = '"' then some ([], rest)
      else
        match textStep false state character with
        | some (next, found) => prepend found (basicFrom next rest)
        | none => none

def basic : Scan (List Char) := basicFrom .between

def basicLinesFrom (state : TextState) : Scan (List Char)
  | [] => none
  | character :: rest =>
      match if state.canClose then closing? '"' (character :: rest) else none with
      | some outcome => some outcome
      | none =>
          match textStep true state character with
          | some (next, found) => prepend found (basicLinesFrom next rest)
          | none => none

def withoutFirstBreak : List Char → List Char
  | '\n' :: rest => rest
  | text => text

def text? : Scan (List Char)
  | '"' :: '"' :: '"' :: rest => basicLinesFrom .between (withoutFirstBreak rest)
  | '\'' :: '\'' :: '\'' :: rest => literalLines (withoutFirstBreak rest)
  | '"' :: rest => basic rest
  | '\'' :: rest => literal rest
  | _ => none

end Toml

end TokenGrammar
