import TokenGrammar.Reading.Cursor
import TokenGrammar.Reading.Frame
/-!
Reading a whole text, and telling whether a text stops too early.
-/

namespace TokenGrammar

/-- All tokens of a text, or the first error; an error between lexemes is met before an error between
forms. -/
def read (source : String) : Except ReadError (List Token) := do
  let lexemes ← (Cursor.ofText source).lexemes
  (Reading.forms lexemes).1

namespace Reading

/-- Whether the steps over a text leave a bracket or a string open. Brackets are only counted; a text
with too many closing ones is not waiting for more. -/
def stopsEarly (depth : Int) : List (Except ReadError PlacedLexeme) → Bool
  | [] => decide (0 < depth)
  | .error error :: _ => error.fault = .unclosedText || error.fault = .endInsideEscape
  | .ok placed :: rest =>
      match placed.lexeme with
      | .opening _ => stopsEarly (depth + 1) rest
      | .closing _ => stopsEarly (depth - 1) rest
      | _ => stopsEarly depth rest

end Reading

def isIncomplete (source : String) : Bool := Reading.stopsEarly 0 (Cursor.ofText source).steps

end TokenGrammar
