import TokenGrammar.Proofs.Matcher.Soundness
/-!
Steps that succeed without taking a token. A sequence does so only if all of its steps do, a choice only
if one of its steps does, and a repetition that has to succeed at least once only if its step does.
-/

namespace TokenGrammar

namespace Step

def TakesNothing (step : Step) : Prop :=
  ∃ input bindings found, step input bindings = .succeeded found ∧ found.consumed = 0

theorem not_takesNothing_one (accepts : Token → Bool) : ¬ (one accepts).TakesNothing := by
  rintro ⟨input, bindings, found, succeeded, none⟩
  unfold one at succeeded
  split at succeeded
  · split at succeeded
    · rw [← Outcome.succeeded.inj succeeded] at none
      cases none
    · cases succeeded
  · cases succeeded

theorem takesNothing_text {characters : List Char} (nothing : (text characters).TakesNothing) :
    characters = [] := by
  obtain ⟨input, bindings, found, succeeded, none⟩ := nothing
  unfold text at succeeded
  split at succeeded
  · rw [← Outcome.succeeded.inj succeeded] at none
    exact List.eq_nil_of_length_eq_zero none
  · cases succeeded

theorem position_le_of_sequenceFrom {input : List Token} {elements : List (Step × Option String)}
    {position : Nat} {bindings : Bindings} {found : Success}
    (succeeded : sequenceFrom input elements position bindings = .succeeded found) :
    position ≤ found.consumed := by
  induction elements generalizing position bindings with
  | nil =>
      rw [← Outcome.succeeded.inj succeeded]
      exact Nat.le_refl _
  | cons element rest ih =>
      obtain ⟨step, name⟩ := element
      obtain ⟨taken, _, later⟩ := Outcome.bind_eq_succeeded_iff.mp succeeded
      exact Nat.le_of_add_right_le (ih later)

theorem takesNothing_of_sequenceFrom {input : List Token}
    {elements : List (Step × Option String)} (sound : ∀ element ∈ elements, element.1.Sound)
    {position : Nat} {bindings : Bindings} {found : Success}
    (succeeded : sequenceFrom input elements position bindings = .succeeded found)
    (none : found.consumed ≤ position) : ∀ element ∈ elements, element.1.TakesNothing := by
  induction elements generalizing position bindings with
  | nil => simp
  | cons element rest ih =>
      obtain ⟨step, name⟩ := element
      obtain ⟨taken, first, later⟩ := Outcome.bind_eq_succeeded_iff.mp succeeded
      have within := (sound _ List.mem_cons_self _ _ _ first).within
      have further := position_le_of_sequenceFrom later
      rw [Nat.min_eq_left within] at further
      intro element member
      rcases List.mem_cons.mp member with here | behind
      · rw [here]
        exact ⟨_, _, taken, first, by omega⟩
      · exact ih (fun element member => sound element (List.mem_cons_of_mem _ member)) later
          (by omega) element behind

theorem takesNothing_sequence {elements : List (Step × Option String)}
    (sound : ∀ element ∈ elements, element.1.Sound) (nothing : (sequence elements).TakesNothing) :
    ∀ element ∈ elements, element.1.TakesNothing := by
  obtain ⟨input, bindings, found, succeeded, none⟩ := nothing
  exact takesNothing_of_sequenceFrom sound succeeded (Nat.le_of_eq none)

theorem takesNothing_choice {steps : List Step} (nothing : (choice steps).TakesNothing) :
    ∃ step ∈ steps, step.TakesNothing := by
  obtain ⟨input, bindings, found, succeeded, none⟩ := nothing
  obtain ⟨step, member, here⟩ := exists_mem_of_choice succeeded
  exact ⟨step, member, input, bindings, found, here, none⟩

theorem takesNothing_repetition {step : Step} (sound : step.Sound) {quantifier : Quantifier}
    {budget : Nat} (nothing : (repetition quantifier budget step).TakesNothing) :
    quantifier.least = 0 ∨ step.TakesNothing := by
  obtain ⟨input, bindings, found, succeeded, none⟩ := nothing
  obtain ⟨final, ended, enough⟩ := Outcome.bind_eq_succeeded_iff.mp succeeded
  split at enough
  next reached =>
    rw [← Outcome.succeeded.inj enough] at none
    dsimp only [Success.front] at none
    -- Either the step never succeeded, or it took a token once, or its last success took nothing.
    have once : final.count = 0 ∨ 0 < final.position ∨ step.TakesNothing := by
      refine @repeatFrom_keeps (fun progress => progress.count = 0 ∨ 0 < progress.position ∨
        step.TakesNothing) _ _ _ ?_ ?_ _ _ _ (.inl rfl) ended
      · intro progress found _ succeeded stays
        exact .inr (.inr ⟨_, _, found, succeeded, stays⟩)
      · intro progress found _ succeeded moves
        have within := (sound _ _ _ succeeded).within
        rw [List.length_drop] at within
        refine .inr (.inl ?_)
        dsimp only
        omega
    rcases once with never | further | nothing
    · rw [never] at reached
      exact .inl (Nat.le_zero.mp reached)
    · omega
    · exact .inr nothing
  next => cases enough

end Step

end TokenGrammar
