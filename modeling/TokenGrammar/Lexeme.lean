import TokenGrammar.Token.Written
import TokenGrammar.Text.Quoted
/-!
Lexemes, the places where they start, and what can be wrong with a text that is read.
-/

namespace TokenGrammar

inductive Lexeme where
  | opening (bracket : Bracket)
  | closing (bracket : Bracket)
  | quote
  | symbol (name : String)
  | text (value : String)
  | integer (value : Int64)
  | float (value : Binary64)
  | character (value : Char)
  | endOfText
  deriving DecidableEq

def Lexeme.shown : Lexeme → String
  | .opening bracket => String.singleton bracket.opening
  | .closing bracket => String.singleton bracket.closing
  | .quote => "'"
  | .symbol name => name
  | .text value => Text.quoted value
  | .integer value => String.ofList (Integer.text value)
  | .float value => String.ofList value.plainText
  | .character value => String.ofList (Token.characterText value)
  | .endOfText => "EOF"

structure Position where
  line : Nat
  column : Nat
  deriving DecidableEq, Repr

namespace Position

def start : Position := ⟨1, 1⟩

def after (position : Position) (character : Char) : Position :=
  if character = '\n' then ⟨position.line + 1, 1⟩ else ⟨position.line, position.column + 1⟩

def afterAll (position : Position) (text : List Char) : Position := text.foldl after position

end Position

structure PlacedLexeme where
  lexeme : Lexeme
  position : Position
  deriving DecidableEq

inductive ReadFault where
  | unclosedText
  | endInsideEscape
  | endAfterBackslash
  | unknownCharacter (name : String)
  | integerOutOfRange (numeral : String)
  | malformedNumber (numeral : String)
  | unclosedGroup (bracket : Bracket)
  | nothingToQuote
  | unexpectedEnd
  | unexpectedClosing (bracket : Bracket)
  deriving DecidableEq

def ReadFault.message : ReadFault → String
  | .unclosedText => "Unclosed string literal"
  | .endInsideEscape => "Unexpected end of string"
  | .endAfterBackslash => "Unexpected end of input after \\"
  | .unknownCharacter name => "Unknown character name: \\" ++ name
  | .integerOutOfRange numeral => "Integer out of range: " ++ numeral
  | .malformedNumber numeral => "Malformed number: " ++ numeral
  | .unclosedGroup bracket => "Unexpected EOF, expected " ++ String.singleton bracket.closing
  | .nothingToQuote => "Nothing to quote"
  | .unexpectedEnd => "Unexpected end of input"
  | .unexpectedClosing bracket => "Unexpected " ++ String.singleton bracket.closing

structure ReadError where
  fault : ReadFault
  position : Position
  deriving DecidableEq

def ReadError.message (error : ReadError) : String :=
  error.fault.message ++ " at line " ++ toString error.position.line ++ ", column " ++
    toString error.position.column

end TokenGrammar
