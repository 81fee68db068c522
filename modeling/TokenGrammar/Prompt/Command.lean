import TokenGrammar.Session
import TokenGrammar.Text.Blank
/-!
What a line at the prompt asks for: definitions, a command after a colon, or input for the start rule.
-/

namespace TokenGrammar

inductive Command where
  | define (source : String)
  | start (rule : String)
  | rules
  | mode (mode : InputMode)
  | check
  | help
  | quit
  | run (text : String)
  | unknown (line : String)
  deriving DecidableEq

namespace Command

def after? (word : String) (text : List Char) : Option (List Char) :=
  if word.toList.isPrefixOf text then some (text.drop word.length) else none

def opensDefinition (line : List Char) : Bool :=
  match line with
  | '(' :: rest =>
      match after? "rule" (Text.trimStart rest) with
      | some (next :: _) => Text.isBlank next || next = '(' || next = '['
      | _ => false
  | _ => false

def named (name argument line : List Char) : Command :=
  if name = "rule".toList then
    if argument.isEmpty then .unknown (String.ofList line) else .start (String.ofList argument)
  else if name = "rules".toList then .rules
  else if name = "chars".toList then .mode .characters
  else if name = "tokens".toList then .mode .tokens
  else if name = "check".toList then .check
  else if name = "help".toList then .help
  else if name = "quit".toList || name = "q".toList || name = "exit".toList then .quit
  else .unknown (String.ofList line)

def parse (text : String) : Option Command :=
  let line := Text.trim text.toList
  if line.isEmpty then none
  else if opensDefinition line then some (.define (String.ofList line))
  else
    match line with
    | ':' :: rest =>
        let name := rest.takeWhile (!Text.isBlank ·)
        let argument := Text.trim (rest.drop (name.length + 1))
        some (named name argument line)
    | _ => some (.run (String.ofList line))

end Command

end TokenGrammar
