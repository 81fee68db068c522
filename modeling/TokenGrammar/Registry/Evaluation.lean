import TokenGrammar.Predicate.Evaluation
import TokenGrammar.Registry
import TokenGrammar.Registry.Generation
/-!
Running matchers against the rules of a registry. The evaluator goes down a given number of levels: one
for every matcher that stands inside another, and one for every rule that is followed. A run that comes
to its end at any number of levels does so within those that `Registry.levels` grants.
-/

namespace TokenGrammar

namespace Registry

def holds (registry : Registry) (call : Token) (bindings : Bindings) : Bool :=
  match evaluate registry.functions bindings call with
  | .ok value => value.isTruthy
  | .error _ => false

def run (registry : Registry) : Nat → Matcher → Step
  | 0, _ => fun _ _ => .unfinished
  | level + 1, matcher =>
      match matcher with
      | .literal expected => Step.one fun token => token.equals expected
      | .tokenIf _ test => Step.one fun token => test.accepts registry.functions token
      | .endOfInput => Step.lookahead fun input _ => input.isEmpty
      | .rule name => fun input bindings =>
          match registry.lookup name with
          | some body => run registry level body input bindings
          | none => .failed
      | .sequence elements =>
          Step.sequence (elements.map fun (inner, name) => (run registry level inner, name))
      | .choice alternatives => Step.choice (alternatives.map (run registry level))
      | .repetition quantifier inner => Step.repetition quantifier level (run registry level inner)
      | .negation inner => Step.negation (run registry level inner)
      | .predicate call => Step.lookahead fun _ bindings => registry.holds call bindings
      | .text content => Step.text content.toList
      | .compiler kind recognizer => fun input bindings =>
          (run registry level recognizer input bindings).bind fun recognized =>
            let invoke : Generation.Invoke := fun name form =>
              match registry.lookup name with
              | some body => run registry level body form ∅
              | none => .failed
            (Generation.formMatcher registry.functions registry.contains invoke kind
              (input.take recognized.consumed)).bind fun generated =>
                .succeeded ⟨.compiled generated, bindings, recognized.consumed⟩
      | .claim count => fun _ bindings => .succeeded ⟨.tokens [], bindings, count⟩

def depth (registry : Registry) : Nat := Matcher.depthOfAll (registry.rules.entries.map Prod.snd)

def reads (registry : Registry) (matcher : Matcher) : List String :=
  matcher.reads ++ Matcher.readsOfAll (registry.rules.entries.map Prod.snd)

/-- How many levels a run may need to come to its end, if it has one. At one place of the input a rule is
followed again only after a name that predicates read has been bound to nothing; then a token is taken,
or a group is opened. -/
def levels (registry : Registry) (matcher : Matcher) (input : List Token) : Nat :=
  (Token.weightAll input + 2) *
    (((registry.reads matcher).length + 1) * (registry.rules.size + 2)) *
      (max registry.depth matcher.depth + 3)

def matchFront (registry : Registry) (matcher : Matcher) : Step := fun input bindings =>
  registry.run (registry.levels matcher input) matcher input bindings

def invoke (registry : Registry) (name : String) : Step := fun input bindings =>
  match registry.lookup name with
  | some matcher => registry.matchFront matcher input bindings
  | none => .failed

def compile (registry : Registry) (body : List Token) : Outcome Matcher :=
  (registry.invoke FormKind.group.compiler [.vector body] ∅).bind fun found =>
    .ofOption found.compiled?

end Registry

end TokenGrammar
