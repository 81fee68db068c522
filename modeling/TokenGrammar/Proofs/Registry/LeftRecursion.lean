import Mathlib.Data.Finset.Card
import Mathlib.Logic.Relation
import TokenGrammar.Proofs.Matcher.Ending
import TokenGrammar.Proofs.Matcher.References
import TokenGrammar.Proofs.Registry.Soundness
/-!
Calls that a rule makes before it has taken a token. Whether a matcher may take nothing is read off its
shape and the rules it refers to; a run that takes nothing shows that it may.
-/

namespace TokenGrammar

namespace Registry

/-- The matchers that may succeed without taking a token. -/
inductive MayTakeNothing (registry : Registry) : Matcher → Prop
  | endOfInput : MayTakeNothing registry .endOfInput
  | rule {name : String} {body : Matcher} (known : registry.lookup name = some body)
      (inside : MayTakeNothing registry body) : MayTakeNothing registry (.rule name)
  | sequence {elements : List (Matcher × Option String)}
      (all : ∀ element ∈ elements, MayTakeNothing registry element.1) :
      MayTakeNothing registry (.sequence elements)
  | choice {alternative : Matcher} {alternatives : List Matcher}
      (member : alternative ∈ alternatives) (inside : MayTakeNothing registry alternative) :
      MayTakeNothing registry (.choice alternatives)
  | skipped {quantifier : Quantifier} {inner : Matcher} (optional : quantifier.least = 0) :
      MayTakeNothing registry (.repetition quantifier inner)
  | repeated {quantifier : Quantifier} {inner : Matcher}
      (inside : MayTakeNothing registry inner) :
      MayTakeNothing registry (.repetition quantifier inner)
  | negation {inner : Matcher} : MayTakeNothing registry (.negation inner)
  | predicate {call : Token} : MayTakeNothing registry (.predicate call)
  | text : MayTakeNothing registry (.text "")

/-- A reference to a rule stands in a matcher where everything before it may take nothing. -/
inductive Begins (registry : Registry) : Matcher → String → Prop
  | rule {name : String} : Begins registry (.rule name) name
  | element {before after : List (Matcher × Option String)} {element : Matcher × Option String}
      {name : String} (nothing : ∀ earlier ∈ before, registry.MayTakeNothing earlier.1)
      (inside : Begins registry element.1 name) :
      Begins registry (.sequence (before ++ element :: after)) name
  | alternative {alternative : Matcher} {alternatives : List Matcher} {name : String}
      (member : alternative ∈ alternatives) (inside : Begins registry alternative name) :
      Begins registry (.choice alternatives) name
  | repeated {quantifier : Quantifier} {inner : Matcher} {name : String}
      (inside : Begins registry inner name) : Begins registry (.repetition quantifier inner) name
  | negated {inner : Matcher} {name : String} (inside : Begins registry inner name) :
      Begins registry (.negation inner) name
  | recognizer {kind : FormKind} {recognizer : Matcher} {name : String}
      (inside : Begins registry recognizer name) :
      Begins registry (.compiler kind recognizer) name

def LeftCalls (registry : Registry) (caller callee : String) : Prop :=
  ∃ body, registry.lookup caller = some body ∧ registry.Begins body callee

variable {registry : Registry}

theorem mayTakeNothing_of_run (honest : registry.Honest) (level : Nat) : ∀ matcher,
    matcher.Honest → (registry.run level matcher).TakesNothing →
      registry.MayTakeNothing matcher := by
  induction level with
  | zero =>
      rintro matcher _ ⟨input, bindings, found, succeeded, _⟩
      cases succeeded
  | succ level ih =>
      intro matcher own nothing
      cases matcher with
      | literal expected => exact absurd nothing (Step.not_takesNothing_one _)
      | tokenIf name test => exact absurd nothing (Step.not_takesNothing_one _)
      | endOfInput => exact .endOfInput
      | rule name =>
          obtain ⟨input, bindings, found, succeeded, none⟩ := nothing
          rw [run_rule] at succeeded
          split at succeeded
          next body known =>
            exact .rule known (ih body (honest name body known) ⟨_, _, found, succeeded, none⟩)
          next => cases succeeded
      | sequence elements =>
          refine .sequence fun element member => ?_
          have inner : element.1.Honest := own.part (.element member .whole)
          have sound := sound_elements honest level own
          exact ih element.1 inner
            (Step.takesNothing_sequence sound nothing _ (List.mem_map_of_mem member))
      | choice alternatives =>
          obtain ⟨step, listed, stays⟩ := Step.takesNothing_choice nothing
          obtain ⟨alternative, member, same⟩ := List.mem_map.mp listed
          rw [← same] at stays
          exact .choice member (ih alternative (own.part (.alternative member .whole)) stays)
      | repetition quantifier inner =>
          have part : inner.Honest := own.part (.repeated .whole)
          rcases Step.takesNothing_repetition (sound_run honest level inner part) nothing with
            optional | stays
          · exact .skipped optional
          · exact .repeated (ih inner part stays)
      | negation inner => exact .negation
      | predicate call => exact .predicate
      | text content =>
          rw [String.toList_eq_nil_iff.mp (Step.takesNothing_text nothing)]
          exact .text
      | compiler kind recognizer =>
          obtain ⟨input, bindings, found, succeeded, none⟩ := nothing
          rw [run_compiler] at succeeded
          obtain ⟨recognized, _, succeeded⟩ := Outcome.bind_eq_succeeded_iff.mp succeeded
          obtain ⟨generated, formed, same⟩ := Outcome.bind_eq_succeeded_iff.mp succeeded
          rw [← Outcome.succeeded.inj same] at none
          dsimp only at none
          rw [none, List.take_zero] at formed
          cases formed
      | claim count => exact (own _ .whole).elim

section First

variable {taking : String → Bool}

theorem takes_eq_false_of_mayTakeNothing
    (consistent : ∀ name body, taking name = true → registry.lookup name = some body →
      body.takes taking = true)
    {matcher : Matcher} (nothing : registry.MayTakeNothing matcher) :
    matcher.takes taking = false := by
  induction nothing with
  | @rule name body known _ ih =>
      by_cases taken : taking name = true
      · rw [consistent name body taken known] at ih
        cases ih
      · exact Bool.eq_false_iff.mpr taken
  | sequence _ ih => exact Matcher.takesSome_eq_false ih
  | choice member _ ih => exact Matcher.takesAlways_eq_false member ih
  | skipped optional => simp [Matcher.takes, optional]
  | repeated _ ih => rw [Matcher.takes, ih, Bool.and_false]
  | endOfInput | negation | predicate => rfl
  | text => simp [Matcher.takes]

theorem mem_firsts_of_begins
    (consistent : ∀ name body, taking name = true → registry.lookup name = some body →
      body.takes taking = true)
    {matcher : Matcher} {name : String} (begins : registry.Begins matcher name) :
    name ∈ matcher.firsts taking := by
  induction begins with
  | rule => exact List.mem_cons_self
  | element nothing _ ih =>
      exact Matcher.mem_firstsOfElements
        (fun earlier member => takes_eq_false_of_mayTakeNothing consistent (nothing earlier member)) ih
  | alternative member _ ih => exact Matcher.mem_firstsOfAll member ih
  | repeated _ ih => exact ih
  | negated _ ih => exact ih
  | recognizer _ ih => exact ih

end First

end Registry

end TokenGrammar
