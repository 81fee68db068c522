import TokenGrammar.Form
/-!
Matchers: descriptions of what to look for at the front of a token sequence. They are plain data; a
reference to a rule is a name, so that rules may refer to each other freely.
-/

namespace TokenGrammar

inductive TokenTest where
  | anything
  | symbol
  | text
  | atomic
  | group (bracket : Bracket)
  | reserved
  | number
  | character
  | boolean
  | quoted
  | call
  | among (tokens : List Token)

namespace TokenTest

def accepts (functions : FunctionTable) (token : Token) : TokenTest → Bool
  | .anything => true
  | .symbol => token.isSymbol
  | .text => token.isText
  | .atomic => token.isAtomic
  | .group bracket => token.isGroup bracket
  | .reserved => token.isReserved
  | .number => token.isNumber
  | .character => token.isCharacter
  | .boolean => token.isBoolean
  | .quoted => token.quoted?.isSome
  | .call => functions.isCall token
  | .among tokens => tokens.any token.equals

end TokenTest

/-- `claim` reports a count of tokens that it has not looked at; all other matchers report what they
have matched. `compiler` turns a form of its kind into a matcher. -/
inductive Matcher where
  | literal (expected : Token)
  | tokenIf (name : String) (test : TokenTest)
  | endOfInput
  | rule (name : String)
  | sequence (elements : List (Matcher × Option String))
  | choice (alternatives : List Matcher)
  | repetition (quantifier : Quantifier) (inner : Matcher)
  | negation (inner : Matcher)
  | predicate (call : Token)
  | text (content : String)
  | compiler (kind : FormKind) (recognizer : Matcher)
  | claim (count : Nat)

namespace Matcher

instance : Inhabited Matcher := ⟨.endOfInput⟩

def sequenceOf : List (Matcher × Option String) → Matcher
  | [(single, none)] => single
  | elements => .sequence elements

def choiceOf : List Matcher → Matcher
  | [single] => single
  | alternatives => .choice alternatives

def name : Matcher → String
  | .literal expected => "literal " ++ expected.render
  | .tokenIf name _ => name
  | .endOfInput => "end"
  | .rule name => "rule " ++ name
  | .sequence elements => "seq/" ++ toString elements.length
  | .choice alternatives => "choice/" ++ toString alternatives.length
  | .repetition quantifier inner => quantifier.label ++ " " ++ inner.name
  | .negation inner => "not " ++ inner.name
  | .predicate call => "predicate " ++ call.render
  | .text content => "string " ++ Text.quoted content
  | .compiler kind _ => kind.compiler
  | .claim _ => "claim"

def shown (matcher : Matcher) : String := "#<matcher " ++ matcher.name ++ ">"

mutual

def depth : Matcher → Nat
  | .sequence elements => depthOfElements elements + 1
  | .choice alternatives => depthOfAll alternatives + 1
  | .repetition _ inner => inner.depth + 1
  | .negation inner => inner.depth + 1
  | .compiler _ recognizer => recognizer.depth + 1
  | _ => 1

def depthOfElements : List (Matcher × Option String) → Nat
  | [] => 0
  | (matcher, _) :: rest => max matcher.depth (depthOfElements rest)

def depthOfAll : List Matcher → Nat
  | [] => 0
  | matcher :: rest => max matcher.depth (depthOfAll rest)

end

mutual

def reads : Matcher → List String
  | .predicate call => call.symbols
  | .sequence elements => readsOfElements elements
  | .choice alternatives => readsOfAll alternatives
  | .repetition _ inner => inner.reads
  | .negation inner => inner.reads
  | .compiler _ recognizer => recognizer.reads
  | _ => []

def readsOfElements : List (Matcher × Option String) → List String
  | [] => []
  | (matcher, _) :: rest => matcher.reads ++ readsOfElements rest

def readsOfAll : List Matcher → List String
  | [] => []
  | matcher :: rest => matcher.reads ++ readsOfAll rest

end

end Matcher

end TokenGrammar
