import TokenGrammar.Proofs.Matcher.Soundness
/-!
Groups among steps. A sequence in a sequence takes the same tokens at the same places as its elements
would in its stead, and a choice in a choice tries the same steps in the same order.
-/

namespace TokenGrammar

namespace Outcome

variable {α β γ : Type}

theorem bind_assoc (outcome : Outcome α) (next : α → Outcome β) (last : β → Outcome γ) :
    (outcome.bind next).bind last = outcome.bind fun value => (next value).bind last := by
  cases outcome <;> rfl

theorem bind_congr {outcome : Outcome α} {next other : α → Outcome β}
    (same : ∀ value, outcome = .succeeded value → next value = other value) :
    outcome.bind next = outcome.bind other := by
  cases outcome with
  | unfinished => rfl
  | failed => rfl
  | succeeded value => exact same value rfl

end Outcome

def Success.bindingsAs (found : Success) (name : Option String) (left : List Token) : Bindings :=
  match name with
  | some name => found.bindings.bind name (left.take (min found.consumed left.length))
  | none => found.bindings

namespace Step

variable {input : List Token}

theorem sequenceFrom_cons (step : Step) (name : Option String) (rest : List (Step × Option String))
    (position : Nat) (bindings : Bindings) :
    sequenceFrom input ((step, name) :: rest) position bindings =
      (step (input.drop position) bindings).bind fun found =>
        sequenceFrom input rest (position + min found.consumed (input.drop position).length)
          (found.bindingsAs name (input.drop position)) := rfl

theorem sequenceFrom_append (before after : List (Step × Option String)) (position : Nat)
    (bindings : Bindings) :
    sequenceFrom input (before ++ after) position bindings =
      (sequenceFrom input before position bindings).bind fun found =>
        sequenceFrom input after found.consumed found.bindings := by
  induction before generalizing position bindings with
  | nil => rfl
  | cons element rest ih =>
      obtain ⟨step, name⟩ := element
      rw [List.cons_append, sequenceFrom_cons, sequenceFrom_cons, Outcome.bind_assoc]
      exact Outcome.bind_congr fun taken _ => ih _ _

theorem sequenceFrom_add (elements : List (Step × Option String)) (position offset : Nat)
    (bindings : Bindings) :
    sequenceFrom input elements (position + offset) bindings =
      (sequenceFrom (input.drop position) elements offset bindings).bind fun found =>
        .succeeded (.front input (position + found.consumed) found.bindings) := by
  induction elements generalizing offset bindings with
  | nil => rfl
  | cons element rest ih =>
      obtain ⟨step, name⟩ := element
      rw [sequenceFrom_cons, sequenceFrom_cons, Outcome.bind_assoc, List.drop_drop]
      refine Outcome.bind_congr fun taken _ => ?_
      rw [Nat.add_assoc]
      exact ih _ _

theorem sequenceFrom_group (inner after : List (Step × Option String)) (position : Nat)
    (bindings : Bindings) :
    sequenceFrom input ((sequence inner, none) :: after) position bindings =
      sequenceFrom input (inner ++ after) position bindings := by
  have shifted := @sequenceFrom_add input inner position 0 bindings
  rw [Nat.add_zero] at shifted
  rw [sequenceFrom_append, shifted, Outcome.bind_assoc, sequenceFrom_cons]
  refine Outcome.bind_congr fun found succeeded => ?_
  -- The group has taken no more than what was left, so that nothing of it is cut off.
  have within := (front_of_sequenceFrom (Nat.zero_le _) succeeded).1
  rw [Nat.min_eq_left within]
  rfl

theorem sequence_group (before inner after : List (Step × Option String)) :
    sequence (before ++ (sequence inner, none) :: after) = sequence (before ++ inner ++ after) := by
  funext input bindings
  unfold sequence
  rw [sequenceFrom_append, List.append_assoc, sequenceFrom_append]
  exact Outcome.bind_congr fun found _ => sequenceFrom_group _ _ _ _

theorem sequence_single (step : Step) (input : List Token) (bindings : Bindings) :
    sequence [(step, none)] input bindings =
      (step input bindings).bind fun found =>
        .succeeded (.front input (min found.consumed input.length) found.bindings) := by
  rw [sequence, sequenceFrom_cons, List.drop_zero]
  refine Outcome.bind_congr fun found _ => ?_
  rw [Nat.zero_add]
  rfl

theorem choice_cons (step : Step) (rest : List Step) (input : List Token) (bindings : Bindings) :
    choice (step :: rest) input bindings =
      match step input bindings with
      | .failed => choice rest input bindings
      | outcome => outcome := rfl

theorem choice_append (before after : List Step) (input : List Token) (bindings : Bindings) :
    choice (before ++ after) input bindings =
      match choice before input bindings with
      | .failed => choice after input bindings
      | outcome => outcome := by
  induction before with
  | nil => rfl
  | cons step rest ih =>
      rw [List.cons_append, choice_cons, choice_cons]
      cases step input bindings with
      | failed => exact ih
      | unfinished => rfl
      | succeeded found => rfl

theorem choice_group (before inner after : List Step) :
    choice (before ++ choice inner :: after) = choice (before ++ inner ++ after) := by
  funext input bindings
  rw [List.append_assoc, choice_append, choice_append before, choice_append inner, choice_cons]

end Step

end TokenGrammar
