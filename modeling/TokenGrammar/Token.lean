import TokenGrammar.Binary64
import TokenGrammar.Integer
/-!
Tokens: the atoms and nested groups that grammars match. A handful of symbols are reserved for the
notation of grammars.
-/

namespace TokenGrammar

inductive Bracket where
  | round
  | square
  deriving DecidableEq, Repr

inductive Token where
  | symbol (name : String)
  | integer (value : Int64)
  | float (value : Binary64)
  | character (value : Char)
  | text (value : String)
  | boolean (value : Bool)
  | group (bracket : Bracket) (items : List Token)

namespace Token

instance : Inhabited Token := ⟨.boolean false⟩

@[match_pattern] abbrev list (items : List Token) : Token := .group .round items

@[match_pattern] abbrev vector (items : List Token) : Token := .group .square items

/-- The symbols that mark the notation of grammars: three quantifiers, negation, binding and choice. -/
def reserved : List String := ["+", "*", "?", "--", "=>", "/"]

def characters (text : String) : List Token := text.toList.map .character

def quote (token : Token) : Token := .list [.symbol "quote", token]

def isCompound : Token → Bool
  | .group .. => true
  | _ => false

def isAtomic (token : Token) : Bool := !token.isCompound

def isSymbol : Token → Bool
  | .symbol _ => true
  | _ => false

def isText : Token → Bool
  | .text _ => true
  | _ => false

def isCharacter : Token → Bool
  | .character _ => true
  | _ => false

def isBoolean : Token → Bool
  | .boolean _ => true
  | _ => false

def isGroup (bracket : Bracket) : Token → Bool
  | .group found _ => found = bracket
  | _ => false

def isNumber : Token → Bool
  | .integer _ | .float _ => true
  | _ => false

def isReserved : Token → Bool
  | .symbol name => reserved.contains name
  | _ => false

def isNamed (name : String) : Token → Bool
  | .symbol found => found == name
  | _ => false

def symbol? : Token → Option String
  | .symbol name => some name
  | _ => none

def items? : Token → Option (List Token)
  | .group _ items => some items
  | _ => none

def quoted? : Token → Option Token
  | .group .round [head, quoted] => if head.isNamed "quote" then some quoted else none
  | _ => none

def isTruthy : Token → Bool
  | .boolean false => false
  | _ => true

mutual

/-- Equality of tokens, with numbers compared by value: the two zeros are equal and a token with a
`nan` inside differs from itself. -/
def equals : Token → Token → Bool
  | .symbol left, .symbol right => left == right
  | .integer left, .integer right => left == right
  | .float left, .float right => left.equals right
  | .character left, .character right => left == right
  | .text left, .text right => left == right
  | .boolean left, .boolean right => left == right
  | .group left leftItems, .group right rightItems =>
      left == right && equalsAll leftItems rightItems
  | _, _ => false

def equalsAll : List Token → List Token → Bool
  | [], [] => true
  | left :: lefts, right :: rights => left.equals right && equalsAll lefts rights
  | _, _ => false

end

mutual

def weight : Token → Nat
  | .group _ items => weightAll items + 1
  | _ => 1

def weightAll : List Token → Nat
  | [] => 0
  | token :: rest => token.weight + weightAll rest

end

mutual

def symbols : Token → List String
  | .symbol name => [name]
  | .group _ items => symbolsOfAll items
  | _ => []

def symbolsOfAll : List Token → List String
  | [] => []
  | token :: rest => token.symbols ++ symbolsOfAll rest

end

end Token

end TokenGrammar
