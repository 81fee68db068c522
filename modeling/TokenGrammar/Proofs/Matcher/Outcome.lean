import TokenGrammar.Matcher.Outcome
/-!
When an outcome that is made of others succeeds, and when it comes to its end.
-/

namespace TokenGrammar

namespace Outcome

variable {α β : Type}

theorem bind_eq_succeeded_iff {outcome : Outcome α} {next : α → Outcome β} {value : β} :
    outcome.bind next = .succeeded value ↔
      ∃ inner, outcome = .succeeded inner ∧ next inner = .succeeded value := by
  cases outcome with
  | unfinished => simp [bind]
  | failed => simp [bind]
  | succeeded inner => simp [bind]

theorem bind_ne_unfinished {outcome : Outcome α} {next : α → Outcome β}
    (finished : outcome ≠ .unfinished)
    (later : ∀ value, outcome = .succeeded value → next value ≠ .unfinished) :
    outcome.bind next ≠ .unfinished := by
  cases outcome with
  | unfinished => exact absurd rfl finished
  | failed => simp [bind]
  | succeeded value => exact later value rfl

theorem ofOption_eq_succeeded_iff {option : Option α} {value : α} :
    ofOption option = .succeeded value ↔ option = some value := by
  cases option with
  | none => simp [ofOption]
  | some found => simp [ofOption]

theorem ofOption_ne_unfinished (option : Option α) : ofOption option ≠ .unfinished := by
  cases option with
  | none => simp [ofOption]
  | some found => simp [ofOption]

def any (outcome : Outcome α) (test : α → Bool) : Bool :=
  match outcome with
  | .succeeded value => test value
  | _ => false

theorem any_eq_true {outcome : Outcome α} {test : α → Bool} :
    outcome.any test = true ↔ ∃ value, outcome = .succeeded value ∧ test value = true := by
  cases outcome <;> simp [any]

end Outcome

end TokenGrammar
