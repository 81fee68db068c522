import TokenGrammar.Reading
import TokenGrammar.GrammarError
/-!
Definitions of rules, written `(rule name body)`.
-/

namespace TokenGrammar

structure Definition where
  name : String
  body : List Token

namespace Definition

/-- A vector gives its items as the body; any other token is a body of one element. -/
def bodyOf : Token → List Token
  | .group .square items => items
  | token => [token]

def ofToken (form : Token) : Except GrammarError Definition :=
  match form with
  | .group .round [head, .symbol name, body] =>
      if head.isNamed "rule" && name != "" then .ok ⟨name, bodyOf body⟩
      else .error (.malformedDefinition form)
  | _ => .error (.malformedDefinition form)

end Definition

/-- All definitions of a text, or the first form that is none. -/
def readDefinitions (source : String) : Except GrammarError (List Definition) :=
  match read source with
  | .error problem => .error (.unreadable problem)
  | .ok forms => forms.mapM Definition.ofToken

end TokenGrammar
