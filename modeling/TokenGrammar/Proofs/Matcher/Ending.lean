import TokenGrammar.Proofs.Matcher.Approximation
import TokenGrammar.Proofs.Matcher.Consumption
/-!
When steps come to their end. Choices and negations need their steps to end on the same input, a
repetition also behind every front of it. Generation ends if the rules it asks for end on sequences that
are lighter than the form it starts from.
-/

namespace TokenGrammar

namespace Step

def Ends (step : Step) (input : List Token) : Prop :=
  ∀ bindings, step input bindings ≠ .unfinished

theorem ends_one (accepts : Token → Bool) (input : List Token) : (one accepts).Ends input := by
  intro bindings
  unfold one
  split
  · split <;> simp
  · simp

theorem ends_lookahead (holds : List Token → Bindings → Bool) (input : List Token) :
    (lookahead holds).Ends input := by
  intro bindings
  unfold lookahead
  split <;> simp

theorem ends_text (characters : List Char) (input : List Token) : (text characters).Ends input := by
  intro bindings
  unfold text
  split <;> simp

theorem ends_choice {steps : List Step} {input : List Token}
    (ends : ∀ step ∈ steps, step.Ends input) : (choice steps).Ends input := by
  induction steps with
  | nil =>
      intro bindings
      simp [choice]
  | cons step rest ih =>
      intro bindings
      unfold choice
      split
      · exact ih (fun step member => ends step (List.mem_cons_of_mem _ member)) bindings
      · exact ends step List.mem_cons_self bindings

theorem ends_sequenceFrom {elements : List (Step × Option String)}
    (sound : ∀ element ∈ elements, element.1.Sound) {input : List Token} {position : Nat}
    (ends : ∀ element ∈ elements, ∀ count, position ≤ count → count ≤ input.length →
      element.1.Ends (input.drop count))
    (inside : position ≤ input.length) (bindings : Bindings) :
    sequenceFrom input elements position bindings ≠ .unfinished := by
  induction elements generalizing position bindings with
  | nil => simp [sequenceFrom]
  | cons element rest ih =>
      obtain ⟨step, name⟩ := element
      have first := ends (step, name) List.mem_cons_self position (Nat.le_refl _) inside
      refine Outcome.bind_ne_unfinished (first bindings) ?_
      intro found _
      refine ih (fun element member => sound element (List.mem_cons_of_mem _ member)) ?_ ?_ _
      · intro element member count behind within
        exact ends element (List.mem_cons_of_mem _ member) count (by omega) within
      · rw [List.length_drop]
        omega

theorem ends_sequence {elements : List (Step × Option String)}
    (sound : ∀ element ∈ elements, element.1.Sound) {input : List Token}
    (front : ∀ before element after, elements = before ++ element :: after →
      (∀ earlier ∈ before, earlier.1.TakesNothing) → element.1.Ends input)
    (behind : ∀ element ∈ elements, ∀ count, 0 < count → count ≤ input.length →
      element.1.Ends (input.drop count)) :
    (sequence elements).Ends input := by
  intro bindings
  unfold sequence
  induction elements generalizing bindings with
  | nil => simp [sequenceFrom]
  | cons element rest ih =>
      obtain ⟨step, name⟩ := element
      have soundRest : ∀ element ∈ rest, element.1.Sound :=
        fun element member => sound element (List.mem_cons_of_mem _ member)
      have first : step.Ends input := front [] _ rest rfl (by simp)
      refine Outcome.bind_ne_unfinished (first bindings) ?_
      intro found succeeded
      have within := (sound _ List.mem_cons_self _ _ _ succeeded).within
      dsimp only
      by_cases none : found.consumed = 0
      · rw [none, Nat.zero_min]
        refine ih soundRest ?_ ?_ _
        · intro before element after same nothing
          refine front ((step, name) :: before) element after (by rw [same]; rfl) ?_
          intro earlier member
          rcases List.mem_cons.mp member with here | later
          · rw [here]
            exact ⟨_, _, found, succeeded, none⟩
          · exact nothing earlier later
        · exact fun element member => behind element (List.mem_cons_of_mem _ member)
      · refine ends_sequenceFrom soundRest ?_ ?_ _
        · intro element member count far inside
          rw [Nat.min_eq_left within] at far
          exact behind element (List.mem_cons_of_mem _ member) count (by omega) inside
        · rw [List.drop_zero] at within ⊢
          omega

theorem ends_negation {step : Step} {input : List Token} (ends : step.Ends input) :
    (negation step).Ends input := by
  intro bindings
  unfold negation
  split
  next cut => exact absurd cut (ends bindings)
  next => simp
  next => simp

/-- A sound step that goes on takes a token, so it cannot go on more often than there are tokens. -/
theorem ends_repeatFrom {step : Step} (sound : step.Sound) {most : Option Nat} {input : List Token}
    (ends : ∀ count ≤ input.length, step.Ends (input.drop count)) {budget : Nat}
    {progress : Progress} (inside : progress.position ≤ input.length)
    (enough : input.length < budget + progress.position) :
    repeatFrom step most input budget progress ≠ .unfinished := by
  induction budget generalizing progress with
  | zero => omega
  | succ budget ih =>
      unfold repeatFrom
      split
      · simp
      · split
        next cut => exact absurd cut (ends _ inside _)
        next => simp
        next found succeeded =>
          split
          · simp
          next taken =>
            have within := (sound _ _ _ succeeded).within
            rw [List.length_drop] at within
            refine ih (Nat.min_le_right _ _) ?_
            dsimp only
            omega

theorem ends_repetition {step : Step} (sound : step.Sound) {input : List Token}
    (ends : ∀ count ≤ input.length, step.Ends (input.drop count)) (quantifier : Quantifier)
    {budget : Nat} (enough : input.length < budget) :
    (repetition quantifier budget step).Ends input := by
  intro bindings
  refine Outcome.bind_ne_unfinished (ends_repeatFrom sound ends (Nat.zero_le _) enough) ?_
  intro final _
  split <;> simp

end Step

namespace Generation

def Invoke.EndsWithin (invoke : Invoke) (limit : Nat) : Prop :=
  ∀ name form, Asks name → Token.weightAll form ≤ limit → invoke name form ≠ .unfinished

variable {functions : FunctionTable} {invoke : Invoke} {limit : Nat}

theorem ends_element (ends : invoke.EndsWithin limit) {form : List Token}
    (light : Token.weightAll form ≤ limit) : element functions invoke form ≠ .unfinished := by
  unfold element
  split
  · simp
  next kind _ =>
    refine Outcome.bind_ne_unfinished (ends _ _ (.inr (.inr ⟨kind, rfl⟩)) light) ?_
    intro found _
    exact Outcome.ofOption_ne_unfinished _

theorem ends_nameOf (ends : invoke.EndsWithin limit) {sequence : List Token}
    (light : Token.weightAll sequence ≤ limit) : nameOf invoke sequence ≠ .unfinished := by
  unfold nameOf
  split
  next cut => exact absurd cut (ends _ _ (.inr (.inl rfl)) light)
  next => simp
  next => split <;> simp

theorem element_nil (functions : FunctionTable) (invoke : Invoke) :
    element functions invoke [] = .failed := rfl

theorem ends_elementsWithin (ends : invoke.EndsWithin limit) {budget : Nat}
    {sequence : List Token} (light : Token.weightAll sequence ≤ limit)
    (enough : sequence.length ≤ budget) :
    elementsWithin functions invoke budget sequence ≠ .unfinished := by
  induction budget generalizing sequence with
  | zero =>
      cases sequence with
      | nil => simp [elementsWithin]
      | cons token rest => simp at enough
  | succ budget ih =>
      cases sequence with
      | nil => simp [elementsWithin]
      | cons token rest =>
          unfold elementsWithin
          refine Outcome.bind_ne_unfinished (ends _ _ (.inl rfl) light) ?_
          intro chunk _
          have front := Token.weightAll_le_of_sublist (List.take_sublist chunk.consumed (token :: rest))
          have back := Token.weightAll_le_of_sublist (List.drop_sublist chunk.consumed (token :: rest))
          refine Outcome.bind_ne_unfinished (ends_element ends (Nat.le_trans front light)) ?_
          intro matcher made
          refine Outcome.bind_ne_unfinished (ends_nameOf ends (Nat.le_trans back light)) ?_
          rintro ⟨name, left⟩ named
          have suffix := suffix_of_nameOf named
          have lighter := Token.weightAll_le_of_sublist suffix.sublist
          have shorter := suffix.length_le
          have taken : chunk.consumed ≠ 0 := by
            intro none
            rw [none, List.take_zero, element_nil] at made
            cases made
          rw [List.length_drop] at shorter
          rw [List.length_cons] at shorter enough
          refine Outcome.bind_ne_unfinished (ih (by omega) (by omega)) ?_
          intro others _
          simp

theorem ends_alternativesMatchers (ends : invoke.EndsWithin limit)
    {alternatives : List (List Token)}
    (light : ∀ sequence ∈ alternatives, Token.weightAll sequence ≤ limit) :
    alternativesMatchers functions invoke alternatives ≠ .unfinished := by
  induction alternatives with
  | nil => simp [alternativesMatchers]
  | cons sequence rest ih =>
      unfold alternativesMatchers
      have first : sequenceMatcher functions invoke sequence ≠ .unfinished := by
        refine Outcome.bind_ne_unfinished
          (ends_elementsWithin ends (light _ List.mem_cons_self) (Nat.le_refl _)) ?_
        intro elements _
        simp
      refine Outcome.bind_ne_unfinished first ?_
      intro matcher _
      refine Outcome.bind_ne_unfinished
        (ih fun sequence member => light sequence (List.mem_cons_of_mem _ member)) ?_
      intro others _
      simp

theorem ends_bodyMatcher (ends : invoke.EndsWithin limit) {body : List Token}
    (light : Token.weightAll body ≤ limit) : bodyMatcher functions invoke body ≠ .unfinished := by
  refine Outcome.bind_ne_unfinished (ends_alternativesMatchers ends ?_) ?_
  · intro sequence cut
    exact Nat.le_trans (weightAll_le_of_mem_alternatives cut) light
  · intro matchers _
    simp

theorem ends_formMatcher {known : String → Bool} {kind : FormKind} {form : List Token}
    (ends : ∀ lighter < Token.weightAll form, invoke.EndsWithin lighter) :
    formMatcher functions known invoke kind form ≠ .unfinished := by
  cases form with
  | nil => simp [formMatcher]
  | cons head rest =>
      cases kind with
      | quantified quantifier =>
          have lighter := Token.weightAll_dropLast_lt (List.cons_ne_nil head rest)
          refine Outcome.bind_ne_unfinished (ends_element (ends _ lighter) (Nat.le_refl _)) ?_
          intro inner _
          simp
      | negated =>
          have lighter := Token.weightAll_tail_lt head rest
          refine Outcome.bind_ne_unfinished (ends_element (ends _ lighter) (Nat.le_refl _)) ?_
          intro inner _
          simp
      | group =>
          unfold formMatcher
          dsimp only
          split
          · refine Outcome.bind_ne_unfinished (Outcome.ofOption_ne_unfinished _) ?_
            intro items group
            have lighter := Token.weightAll_items_lt (Outcome.ofOption_eq_succeeded_iff.mp group) rest
            exact ends_bodyMatcher (ends _ lighter) (Nat.le_refl _)
          · simp
      | reference => exact Outcome.ofOption_ne_unfinished _
      | text => cases head <;> simp [formMatcher]
      | predicate => simp [formMatcher]
      | literal => simp [formMatcher]

end Generation

end TokenGrammar
