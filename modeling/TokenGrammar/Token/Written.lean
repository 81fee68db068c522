import TokenGrammar.Token
import TokenGrammar.Binary64.Written
/-!
Written tokens: the text from which the reader takes a token back.
-/

namespace TokenGrammar

namespace Bracket

def opening : Bracket → Char
  | .round => '('
  | .square => '['

def closing : Bracket → Char
  | .round => ')'
  | .square => ']'

end Bracket

namespace Token

def escaped (character : Char) : List Char :=
  if character = '"' then ['\\', '"']
  else if character = '\\' then ['\\', '\\']
  else if character = '\n' then ['\\', 'n']
  else if character = '\t' then ['\\', 't']
  else if character = '\r' then ['\\', 'r']
  else [character]

def characterText (character : Char) : List Char :=
  if character = ' ' then "\\space".toList
  else if character = '\n' then "\\newline".toList
  else if character = '\t' then "\\tab".toList
  else ['\\', character]

mutual

def written : Token → List Char
  | .symbol name => name.toList
  | .integer value => Integer.text value
  | .float value => value.text
  | .character value => characterText value
  | .text value => '"' :: value.toList.flatMap escaped ++ ['"']
  | .boolean value => if value then "true".toList else "false".toList
  | .group bracket items => bracket.opening :: writtenAll items ++ [bracket.closing]

def writtenAll : List Token → List Char
  | [] => []
  | [token] => token.written
  | token :: next :: rest => token.written ++ ' ' :: writtenAll (next :: rest)

end

def render (token : Token) : String := String.ofList token.written

def renderAll (tokens : List Token) : String := String.ofList (writtenAll tokens)

end Token

end TokenGrammar
