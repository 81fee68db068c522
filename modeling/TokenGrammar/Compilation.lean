import TokenGrammar.Form.Element
import TokenGrammar.Matcher
/-!
Compiling the body of a rule by walking over it. Every alternative is cut into elements before its
first form is compiled, and the first error from the left is the error of the body.
-/

namespace TokenGrammar

mutual

def Token.depth : Token → Nat
  | .group _ items => Token.depthOfAll items + 1
  | _ => 0

def Token.depthOfAll : List Token → Nat
  | [] => 0
  | token :: rest => max token.depth (Token.depthOfAll rest)

end

namespace Compilation

def atomMatcher (compileGroup : List Token → Except GrammarError Matcher) :
    Atom → Except GrammarError Matcher
  | .predicate call => .ok (.predicate call)
  | .group items => compileGroup items
  | .reference name => .ok (.rule name)
  | .text content => .ok (.text content)
  | .literal expected => .ok (.literal expected)

def negated : Nat → Matcher → Matcher
  | 0, matcher => matcher
  | count + 1, matcher => .negation (negated count matcher)

def quantified (quantifier : Option Quantifier) (matcher : Matcher) : Matcher :=
  match quantifier with
  | some quantifier => .repetition quantifier matcher
  | none => matcher

def formMatcher (functions : FunctionTable)
    (compileGroup : List Token → Except GrammarError Matcher) (tokens : List Token) :
    Except GrammarError Matcher :=
  match Form.ofTokens? functions tokens with
  | none => .error (.unknownForm tokens)
  | some form =>
      (atomMatcher compileGroup form.atom).map fun matcher =>
        quantified form.quantifier (negated form.negations matcher)

def elementMatcher (functions : FunctionTable)
    (compileGroup : List Token → Except GrammarError Matcher) (element : Element) :
    Except GrammarError (Matcher × Option String) :=
  (formMatcher functions compileGroup element.form).map fun matcher => (matcher, element.name)

def sequenceMatcher (functions : FunctionTable)
    (compileGroup : List Token → Except GrammarError Matcher) (sequence : List Token) :
    Except GrammarError Matcher := do
  let elements ← Body.elements sequence
  return .sequenceOf (← elements.mapM (elementMatcher functions compileGroup))

def bodyMatcher (functions : FunctionTable)
    (compileGroup : List Token → Except GrammarError Matcher) (body : List Token) :
    Except GrammarError Matcher :=
  ((Body.alternatives body).mapM (sequenceMatcher functions compileGroup)).map .choiceOf

/-- Compiles a body whose groups stand at most so deeply inside each other. -/
def compileWithin (functions : FunctionTable) : Nat → List Token → Except GrammarError Matcher
  | 0 => bodyMatcher functions fun items => .error (.unknownForm items)
  | depth + 1 => bodyMatcher functions (compileWithin functions depth)

end Compilation

def compileBody (functions : FunctionTable) (body : List Token) : Except GrammarError Matcher :=
  Compilation.compileWithin functions (Token.depthOfAll body) body

def compileForm (functions : FunctionTable) (tokens : List Token) : Except GrammarError Matcher :=
  Compilation.formMatcher functions (compileBody functions) tokens

end TokenGrammar
