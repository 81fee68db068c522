import TokenGrammar.Proofs.Matcher.Approximation
import TokenGrammar.Registry.Evaluation
/-!
Levels only cut a run off: once a run comes to its end, more levels give the same outcome.
-/

namespace TokenGrammar

namespace Registry

def invokeAt (registry : Registry) (level : Nat) : Generation.Invoke := fun name form =>
  match registry.lookup name with
  | some body => registry.run level body form ∅
  | none => .failed

variable {registry : Registry}

theorem run_rule (level : Nat) (name : String) (input : List Token) (bindings : Bindings) :
    registry.run (level + 1) (.rule name) input bindings =
      match registry.lookup name with
      | some body => registry.run level body input bindings
      | none => .failed := rfl

theorem run_rule_of_lookup {name : String} {body : Matcher}
    (known : registry.lookup name = some body) (level : Nat) (input : List Token)
    (bindings : Bindings) :
    registry.run (level + 1) (.rule name) input bindings = registry.run level body input bindings := by
  rw [run_rule, known]

theorem run_compiler (level : Nat) (kind : FormKind) (recognizer : Matcher) (input : List Token)
    (bindings : Bindings) :
    registry.run (level + 1) (.compiler kind recognizer) input bindings =
      (registry.run level recognizer input bindings).bind fun recognized =>
        (Generation.formMatcher registry.functions registry.contains (registry.invokeAt level) kind
          (input.take recognized.consumed)).bind fun generated =>
            .succeeded ⟨.compiled generated, bindings, recognized.consumed⟩ := rfl

def stepsAt (registry : Registry) (level : Nat) (elements : List (Matcher × Option String)) :
    List (Step × Option String) :=
  elements.map fun (inner, name) => (registry.run level inner, name)

theorem forall_mem_stepsAt {level : Nat} {elements : List (Matcher × Option String)}
    {holds : Step → Prop} (each : ∀ element ∈ elements, holds (registry.run level element.1)) :
    ∀ element ∈ registry.stepsAt level elements, holds element.1 :=
  List.forall_mem_map.mpr each

theorem run_sequence (level : Nat) (elements : List (Matcher × Option String)) :
    registry.run (level + 1) (.sequence elements) = .sequence (registry.stepsAt level elements) := rfl

theorem run_choice (level : Nat) (alternatives : List Matcher) :
    registry.run (level + 1) (.choice alternatives) =
      .choice (alternatives.map (registry.run level)) := rfl

theorem approximates_stepsAt {level higher : Nat}
    (close : ∀ matcher, (registry.run level matcher).Approximates (registry.run higher matcher))
    (elements : List (Matcher × Option String)) :
    List.Forall₂ Step.ElementApproximates (registry.stepsAt level elements)
      (registry.stepsAt higher elements) := by
  unfold stepsAt
  rw [List.forall₂_map_left_iff, List.forall₂_map_right_iff, List.forall₂_same]
  intro element _
  exact ⟨close element.1, rfl⟩

theorem approximates_alternatives {level higher : Nat}
    (close : ∀ matcher, (registry.run level matcher).Approximates (registry.run higher matcher))
    (alternatives : List Matcher) :
    List.Forall₂ Step.Approximates (alternatives.map (registry.run level))
      (alternatives.map (registry.run higher)) := by
  rw [List.forall₂_map_left_iff, List.forall₂_map_right_iff, List.forall₂_same]
  intro alternative _
  exact close alternative

theorem approximates_invokeAt {level higher : Nat}
    (close : ∀ matcher, (registry.run level matcher).Approximates (registry.run higher matcher))
    (limit : Nat) : (registry.invokeAt level).ApproximatesWithin limit (registry.invokeAt higher) := by
  intro name form _ _
  unfold invokeAt
  split
  · exact close _ _ _
  · exact Outcome.approximates_refl _

theorem approximates_run_succ (level : Nat) : ∀ matcher,
    (registry.run level matcher).Approximates (registry.run (level + 1) matcher) := by
  induction level with
  | zero =>
      intro matcher
      exact Step.unfinished_approximates _
  | succ level ih =>
      intro matcher
      cases matcher with
      | rule name =>
          intro input bindings
          rw [run_rule, run_rule]
          split
          · exact ih _ _ _
          · exact Outcome.approximates_refl _
      | sequence elements => exact Step.approximates_sequence (approximates_stepsAt ih elements)
      | choice alternatives =>
          exact Step.approximates_choice (approximates_alternatives ih alternatives)
      | repetition quantifier inner =>
          exact Step.approximates_repetition (ih inner) quantifier (Nat.le_succ level)
      | negation inner => exact Step.approximates_negation (ih inner)
      | compiler kind recognizer =>
          intro input bindings
          rw [run_compiler, run_compiler]
          refine (ih recognizer _ _).bind fun recognized => ?_
          refine (Generation.approximates_formMatcher _ _ fun _ _ => approximates_invokeAt ih _).bind ?_
          exact fun generated => Outcome.approximates_refl _
      | literal expected => exact Step.approximates_refl _
      | tokenIf name test => exact Step.approximates_refl _
      | endOfInput => exact Step.approximates_refl _
      | predicate call => exact Step.approximates_refl _
      | text content => exact Step.approximates_refl _
      | claim count => exact Step.approximates_refl _

theorem approximates_run {level higher : Nat} (enough : level ≤ higher) (matcher : Matcher) :
    (registry.run level matcher).Approximates (registry.run higher matcher) := by
  induction enough with
  | refl => exact Step.approximates_refl _
  | step _ ih => exact ih.trans (approximates_run_succ _ matcher)

theorem run_eq_of_le {level higher : Nat} (enough : level ≤ higher) {matcher : Matcher}
    {input : List Token} {bindings : Bindings}
    (finished : registry.run level matcher input bindings ≠ .unfinished) :
    registry.run higher matcher input bindings = registry.run level matcher input bindings :=
  ((approximates_run enough matcher input bindings).eq finished).symm

end Registry

end TokenGrammar
