import TokenGrammar.Form.Element
import TokenGrammar.Matcher.Outcome
/-!
Compiling forms with the rules of a registry. The body of a group is cut into chunks by the rules
`rule-element` and `binding`, and a chunk is compiled by the rule named for its kind. All of it is
written over an arbitrary way of invoking a rule by name, without bindings.
-/

namespace TokenGrammar

namespace Generation

abbrev Invoke := String → List Token → Outcome Success

def elementRule : String := "rule-element"

def bindingRule : String := "binding"

def captureName : String := "name"

def element (functions : FunctionTable) (invoke : Invoke) (form : List Token) : Outcome Matcher :=
  match FormKind.classify functions form with
  | none => .failed
  | some kind => (invoke kind.compiler form).bind fun found => .ofOption found.compiled?

/-- The name bound at the start of a sequence, if any, and what follows. A binding without a usable
name fails the whole. -/
def nameOf (invoke : Invoke) (sequence : List Token) : Outcome (Option String × List Token) :=
  match invoke bindingRule sequence with
  | .unfinished => .unfinished
  | .failed => .succeeded (none, sequence)
  | .succeeded found =>
      match ((found.bindings.get? captureName).bind List.head?).bind Token.symbol? with
      | some name => .succeeded (some name, sequence.drop found.consumed)
      | none => .failed

/-- The elements of a sequence. A chunk without tokens is no form, so that a `budget` of the length of
the sequence is enough. -/
def elementsWithin (functions : FunctionTable) (invoke : Invoke) :
    Nat → List Token → Outcome (List (Matcher × Option String))
  | _, [] => .succeeded []
  | 0, _ :: _ => .unfinished
  | budget + 1, sequence =>
      (invoke elementRule sequence).bind fun chunk =>
        (element functions invoke (sequence.take chunk.consumed)).bind fun matcher =>
          (nameOf invoke (sequence.drop chunk.consumed)).bind fun (name, left) =>
            (elementsWithin functions invoke budget left).bind fun rest =>
              .succeeded ((matcher, name) :: rest)

def sequenceMatcher (functions : FunctionTable) (invoke : Invoke) (sequence : List Token) :
    Outcome Matcher :=
  (elementsWithin functions invoke sequence.length sequence).bind fun elements =>
    .succeeded (.sequenceOf elements)

def alternativesMatchers (functions : FunctionTable) (invoke : Invoke) :
    List (List Token) → Outcome (List Matcher)
  | [] => .succeeded []
  | sequence :: rest =>
      (sequenceMatcher functions invoke sequence).bind fun matcher =>
        (alternativesMatchers functions invoke rest).bind fun others =>
          .succeeded (matcher :: others)

def bodyMatcher (functions : FunctionTable) (invoke : Invoke) (body : List Token) :
    Outcome Matcher :=
  (alternativesMatchers functions invoke (Body.alternatives body)).bind fun matchers =>
    .succeeded (.choiceOf matchers)

/-- The matcher for a recognised form of some kind. Groups need the two rules that cut bodies, even if
there is nothing to cut. -/
def formMatcher (functions : FunctionTable) (known : String → Bool) (invoke : Invoke)
    (kind : FormKind) (form : List Token) : Outcome Matcher :=
  match kind, form with
  | _, [] => .failed
  | .reference, head :: _ => .ofOption (head.symbol?.map .rule)
  | .text, .text content :: _ => .succeeded (.text content)
  | .text, _ => .failed
  | .literal, head :: _ => .succeeded (.literal (head.quoted?.getD head))
  | .predicate, head :: _ => .succeeded (.predicate head)
  | .group, head :: _ =>
      if known elementRule && known bindingRule then
        (Outcome.ofOption head.items?).bind (bodyMatcher functions invoke)
      else .failed
  | .quantified quantifier, form =>
      (element functions invoke form.dropLast).bind fun inner =>
        .succeeded (.repetition quantifier inner)
  | .negated, _ :: inner =>
      (element functions invoke inner).bind fun matcher => .succeeded (.negation matcher)

end Generation

end TokenGrammar
