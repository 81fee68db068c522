import Mathlib.Data.List.Forall2
import TokenGrammar.Proofs.Matcher.Outcome
import TokenGrammar.Proofs.Token.Weight
import TokenGrammar.Registry.Generation
/-!
An outcome approximates another if it is the same or was cut off before its end. All ways of putting
steps together respect this order, and so does generation: from better approximations of the parts they
make a better approximation of the whole. Hence a computation that comes to its end in a few levels
comes to the same end in many, and a rule can be replaced by what it is known to do.
-/

namespace TokenGrammar

namespace Outcome

variable {α β : Type}

def Approximates (outcome other : Outcome α) : Prop := outcome = .unfinished ∨ outcome = other

theorem approximates_refl (outcome : Outcome α) : outcome.Approximates outcome := .inr rfl

theorem unfinished_approximates (outcome : Outcome α) : Outcome.unfinished.Approximates outcome :=
  .inl rfl

theorem Approximates.trans {first second third : Outcome α} (left : first.Approximates second)
    (right : second.Approximates third) : first.Approximates third := by
  rcases left with cut | same
  · exact .inl cut
  · rw [same]
    exact right

theorem Approximates.eq {outcome other : Outcome α} (close : outcome.Approximates other)
    (finished : outcome ≠ .unfinished) : outcome = other :=
  close.resolve_left finished

theorem Approximates.bind_of_succeeded {outcome other : Outcome α} {next otherNext : α → Outcome β}
    (close : outcome.Approximates other)
    (closeNext : ∀ value, outcome = .succeeded value → (next value).Approximates (otherNext value)) :
    (outcome.bind next).Approximates (other.bind otherNext) := by
  rcases close with cut | same
  · subst cut
    exact .inl rfl
  · subst same
    cases outcome with
    | unfinished => exact .inl rfl
    | failed => exact .inr rfl
    | succeeded value => exact closeNext value rfl

theorem Approximates.bind {outcome other : Outcome α} {next otherNext : α → Outcome β}
    (close : outcome.Approximates other)
    (closeNext : ∀ value, (next value).Approximates (otherNext value)) :
    (outcome.bind next).Approximates (other.bind otherNext) :=
  close.bind_of_succeeded fun value _ => closeNext value

end Outcome

namespace Step

def Approximates (step other : Step) : Prop :=
  ∀ input bindings, (step input bindings).Approximates (other input bindings)

theorem approximates_refl (step : Step) : step.Approximates step :=
  fun _ _ => Outcome.approximates_refl _

theorem unfinished_approximates (step : Step) :
    Step.Approximates (fun _ _ => .unfinished) step :=
  fun _ _ => Outcome.unfinished_approximates _

theorem Approximates.trans {first second third : Step} (left : first.Approximates second)
    (right : second.Approximates third) : first.Approximates third :=
  fun input bindings => (left input bindings).trans (right input bindings)

def ElementApproximates (element other : Step × Option String) : Prop :=
  element.1.Approximates other.1 ∧ element.2 = other.2

theorem approximates_sequenceFrom {elements others : List (Step × Option String)}
    (close : List.Forall₂ ElementApproximates elements others) (input : List Token) :
    ∀ position bindings, (sequenceFrom input elements position bindings).Approximates
      (sequenceFrom input others position bindings) := by
  induction close with
  | nil =>
      intro position bindings
      exact Outcome.approximates_refl _
  | @cons element other elements others first _ ih =>
      intro position bindings
      obtain ⟨step, name⟩ := element
      obtain ⟨otherStep, otherName⟩ := other
      obtain ⟨closeStep, sameName⟩ := first
      dsimp only at closeStep sameName
      subst sameName
      unfold sequenceFrom
      exact (closeStep _ _).bind fun found => ih _ _

theorem approximates_sequence {elements others : List (Step × Option String)}
    (close : List.Forall₂ ElementApproximates elements others) :
    (sequence elements).Approximates (sequence others) :=
  fun input bindings => approximates_sequenceFrom close input 0 bindings

theorem approximates_choice_at {steps others : List Step} {input : List Token} {bindings : Bindings}
    (close : List.Forall₂ (fun step other =>
      (step input bindings).Approximates (other input bindings)) steps others) :
    (choice steps input bindings).Approximates (choice others input bindings) := by
  induction close with
  | nil => exact Outcome.approximates_refl _
  | @cons step other steps others first _ ih =>
      unfold choice
      rcases first with cut | same
      · rw [cut]
        exact .inl rfl
      · rw [same]
        cases other input bindings with
        | unfinished => exact .inl rfl
        | failed => exact ih
        | succeeded found => exact .inr rfl

theorem approximates_choice {steps others : List Step}
    (close : List.Forall₂ Step.Approximates steps others) :
    (choice steps).Approximates (choice others) :=
  fun input bindings => approximates_choice_at (close.imp fun _ _ both => both input bindings)

theorem approximates_repeatFrom {step other : Step} (close : step.Approximates other)
    (most : Option Nat) (input : List Token) {budget otherBudget : Nat}
    (enough : budget ≤ otherBudget) : ∀ progress,
    (repeatFrom step most input budget progress).Approximates
      (repeatFrom other most input otherBudget progress) := by
  induction budget generalizing otherBudget with
  | zero =>
      intro progress
      unfold repeatFrom
      cases otherBudget with
      | zero => exact Outcome.approximates_refl _
      | succ otherBudget =>
          dsimp only
          split
          · exact .inr rfl
          · exact .inl rfl
  | succ budget ih =>
      intro progress
      cases otherBudget with
      | zero => omega
      | succ otherBudget =>
          unfold repeatFrom
          split
          · exact .inr rfl
          · rcases close (input.drop progress.position) progress.bindings with cut | same
            · rw [cut]
              exact .inl rfl
            · rw [same]
              cases other (input.drop progress.position) progress.bindings with
              | unfinished => exact .inl rfl
              | failed => exact .inr rfl
              | succeeded found =>
                  dsimp only
                  split
                  · exact .inr rfl
                  · exact ih (by omega) _

theorem approximates_repetition {step other : Step} (close : step.Approximates other)
    (quantifier : Quantifier) {budget otherBudget : Nat} (enough : budget ≤ otherBudget) :
    (repetition quantifier budget step).Approximates
      (repetition quantifier otherBudget other) :=
  fun _ _ => (approximates_repeatFrom close _ _ enough _).bind
    fun _ => Outcome.approximates_refl _

theorem approximates_negation_at {step other : Step} {input : List Token} {bindings : Bindings}
    (close : (step input bindings).Approximates (other input bindings)) :
    (negation step input bindings).Approximates (negation other input bindings) := by
  unfold negation
  rcases close with cut | same
  · rw [cut]
    exact .inl rfl
  · rw [same]
    exact Outcome.approximates_refl _

theorem approximates_negation {step other : Step} (close : step.Approximates other) :
    (negation step).Approximates (negation other) :=
  fun input bindings => approximates_negation_at (close input bindings)

end Step

namespace Generation

def Asks (name : String) : Prop :=
  name = elementRule ∨ name = bindingRule ∨ ∃ kind : FormKind, name = kind.compiler

variable {functions : FunctionTable} {invoke other : Invoke} {limit : Nat}

def Invoke.ApproximatesWithin (limit : Nat) (invoke other : Invoke) : Prop :=
  ∀ name form, Asks name → Token.weightAll form ≤ limit →
    (invoke name form).Approximates (other name form)

theorem suffix_of_nameOf {sequence left : List Token} {name : Option String}
    (found : nameOf invoke sequence = .succeeded (name, left)) : left <:+ sequence := by
  unfold nameOf at found
  split at found
  · cases found
  · cases found
    exact List.suffix_refl _
  · split at found
    · cases found
      exact List.drop_suffix _ _
    · cases found

theorem weightAll_le_of_mem_alternatives {body sequence : List Token}
    (cut : sequence ∈ Body.alternatives body) :
    Token.weightAll sequence ≤ Token.weightAll body := by
  induction body generalizing sequence with
  | nil => exact Nat.le_of_eq (congrArg Token.weightAll (List.mem_singleton.mp cut))
  | cons first rest ih =>
      unfold Body.alternatives at cut
      split at cut
      · rcases List.mem_cons.mp cut with empty | later
        · rw [empty]
          exact Nat.zero_le _
        · exact Nat.le_trans (ih later) (Nat.le_add_left _ _)
      · split at cut
        next front others found =>
          rcases List.mem_cons.mp cut with same | later
          · rw [same]
            exact Nat.add_le_add_left (ih (found ▸ List.mem_cons_self)) _
          · exact Nat.le_trans (ih (found ▸ List.mem_cons_of_mem _ later)) (Nat.le_add_left _ _)
        · rw [List.mem_singleton.mp cut]
          exact Nat.add_le_add_left (Nat.zero_le _) _

theorem approximates_element (close : invoke.ApproximatesWithin limit other) {form : List Token}
    (light : Token.weightAll form ≤ limit) :
    (element functions invoke form).Approximates (element functions other form) := by
  unfold element
  split
  · exact Outcome.approximates_refl _
  next kind _ =>
    exact (close _ _ (.inr (.inr ⟨kind, rfl⟩)) light).bind fun _ => Outcome.approximates_refl _

theorem approximates_nameOf (close : invoke.ApproximatesWithin limit other) {sequence : List Token}
    (light : Token.weightAll sequence ≤ limit) :
    (nameOf invoke sequence).Approximates (nameOf other sequence) := by
  unfold nameOf
  rcases close bindingRule sequence (.inr (.inl rfl)) light with cut | same
  · rw [cut]
    exact .inl rfl
  · rw [same]
    exact Outcome.approximates_refl _

theorem approximates_elementsWithin (close : invoke.ApproximatesWithin limit other) (budget : Nat) :
    ∀ sequence, Token.weightAll sequence ≤ limit →
      (elementsWithin functions invoke budget sequence).Approximates
        (elementsWithin functions other budget sequence) := by
  induction budget with
  | zero =>
      intro sequence _
      cases sequence with
      | nil => exact Outcome.approximates_refl _
      | cons token rest => exact Outcome.approximates_refl _
  | succ budget ih =>
      intro sequence light
      cases sequence with
      | nil => exact Outcome.approximates_refl _
      | cons token rest =>
          unfold elementsWithin
          refine (close _ _ (.inl rfl) light).bind fun chunk => ?_
          have front := Token.weightAll_le_of_sublist (List.take_sublist chunk.consumed (token :: rest))
          have back := Token.weightAll_le_of_sublist (List.drop_sublist chunk.consumed (token :: rest))
          refine (approximates_element close (Nat.le_trans front light)).bind fun matcher => ?_
          refine (approximates_nameOf close (Nat.le_trans back light)).bind_of_succeeded ?_
          rintro ⟨name, left⟩ named
          have lighter := Token.weightAll_le_of_sublist (suffix_of_nameOf named).sublist
          refine (ih left (Nat.le_trans lighter (Nat.le_trans back light))).bind fun rest => ?_
          exact Outcome.approximates_refl _

theorem approximates_alternativesMatchers (close : invoke.ApproximatesWithin limit other)
    {alternatives : List (List Token)}
    (light : ∀ sequence ∈ alternatives, Token.weightAll sequence ≤ limit) :
    (alternativesMatchers functions invoke alternatives).Approximates
      (alternativesMatchers functions other alternatives) := by
  induction alternatives with
  | nil => exact Outcome.approximates_refl _
  | cons sequence rest ih =>
      obtain ⟨first, others⟩ := List.forall_mem_cons.mp light
      unfold alternativesMatchers sequenceMatcher
      refine ((approximates_elementsWithin close _ sequence first).bind fun elements => ?_).bind
        fun matcher => (ih others).bind fun matchers => ?_
      · exact Outcome.approximates_refl _
      · exact Outcome.approximates_refl _

theorem approximates_bodyMatcher (close : invoke.ApproximatesWithin limit other) {body : List Token}
    (light : Token.weightAll body ≤ limit) :
    (bodyMatcher functions invoke body).Approximates (bodyMatcher functions other body) := by
  refine (approximates_alternativesMatchers close fun sequence cut => ?_).bind fun matchers => ?_
  · exact Nat.le_trans (weightAll_le_of_mem_alternatives cut) light
  · exact Outcome.approximates_refl _

/-- A form is compiled with the help of rules that see less than the form. -/
theorem approximates_formMatcher (known : String → Bool) (kind : FormKind) {form : List Token}
    (close : ∀ lighter < Token.weightAll form, invoke.ApproximatesWithin lighter other) :
    (formMatcher functions known invoke kind form).Approximates
      (formMatcher functions known other kind form) := by
  cases form with
  | nil => exact Outcome.approximates_refl _
  | cons head rest =>
      cases kind with
      | quantified quantifier =>
          have lighter := Token.weightAll_dropLast_lt (List.cons_ne_nil head rest)
          refine (approximates_element (close _ lighter) (Nat.le_refl _)).bind fun _ => ?_
          exact Outcome.approximates_refl _
      | negated =>
          have lighter := Token.weightAll_tail_lt head rest
          refine (approximates_element (close _ lighter) (Nat.le_refl _)).bind fun _ => ?_
          exact Outcome.approximates_refl _
      | group =>
          unfold formMatcher
          dsimp only
          split
          · refine (Outcome.approximates_refl _).bind_of_succeeded fun items group => ?_
            have lighter := Token.weightAll_items_lt (Outcome.ofOption_eq_succeeded_iff.mp group) rest
            exact approximates_bodyMatcher (close _ lighter) (Nat.le_refl _)
          · exact Outcome.approximates_refl _
      | predicate => exact Outcome.approximates_refl _
      | reference => exact Outcome.approximates_refl _
      | text => cases head <;> exact Outcome.approximates_refl _
      | literal => exact Outcome.approximates_refl _

end Generation

end TokenGrammar
