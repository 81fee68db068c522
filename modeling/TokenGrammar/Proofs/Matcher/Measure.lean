import TokenGrammar.Matcher.Outcome
/-!
Measures: how many tokens to take from the front of an input, if any. Steps that take as many tokens as a
measure says, and bind nothing, are closed under all ways of putting steps together but repetition.
-/

namespace TokenGrammar

abbrev Measure := List Token → Option Nat

namespace Measure

def single (accepts : Token → Bool) : Measure
  | token :: _ => if accepts token then some 1 else none
  | [] => none

def atEnd : Measure := fun input => if input.isEmpty then some 0 else none

def absent (measure : Measure) : Measure := fun input =>
  if (measure input).isSome then none else some 0

def inSequence : List Measure → Measure
  | [] => fun _ => some 0
  | measure :: rest => fun input =>
      (measure input).bind fun count => (inSequence rest (input.drop count)).map (count + ·)

def firstOf : List Measure → Measure
  | [] => fun _ => none
  | measure :: rest => fun input => (measure input).or (firstOf rest input)

theorem single_eq_some_iff {accepts : Token → Bool} {input : List Token} {count : Nat} :
    single accepts input = some count ↔
      ∃ token rest, input = token :: rest ∧ accepts token = true ∧ count = 1 := by
  cases input with
  | nil => simp [single]
  | cons token rest =>
      dsimp only [single]
      split
      next accepted =>
        constructor
        · intro taken
          exact ⟨token, rest, rfl, accepted, (Option.some.inj taken).symm⟩
        · rintro ⟨_, _, _, _, same⟩
          rw [same]
      next refused =>
        constructor
        · intro taken
          cases taken
        · rintro ⟨_, _, same, accepted, _⟩
          cases same
          exact absurd accepted refused

theorem inSequence_cons_eq_some_iff {measure : Measure} {rest : List Measure} {input : List Token}
    {count : Nat} : inSequence (measure :: rest) input = some count ↔
      ∃ first others, measure input = some first ∧
        inSequence rest (input.drop first) = some others ∧ count = first + others := by
  simp only [inSequence, Option.bind_eq_some_iff, Option.map_eq_some_iff]
  constructor
  · rintro ⟨first, begun, others, ended, same⟩
    exact ⟨first, others, begun, ended, same.symm⟩
  · rintro ⟨first, others, begun, ended, same⟩
    exact ⟨first, begun, others, ended, same.symm⟩

theorem inSequence_atEnd_eq_some_iff {input : List Token} {count : Nat} :
    inSequence [atEnd] input = some count ↔ input = [] ∧ count = 0 := by
  cases input <;> simp [inSequence, atEnd, eq_comm]

theorem firstOf_append (front back : List Measure) (input : List Token) :
    firstOf (front ++ back) input = (firstOf front input).or (firstOf back input) := by
  induction front with
  | nil => rfl
  | cons measure rest ih => simp only [List.cons_append, firstOf, ih, Option.or_assoc]

def Within (measure : Measure) : Prop :=
  ∀ input count, measure input = some count → count ≤ input.length

theorem within_single (accepts : Token → Bool) : (single accepts).Within := by
  intro input count taken
  cases input with
  | nil => cases taken
  | cons token rest =>
      dsimp only [single] at taken
      split at taken
      · rw [← Option.some.inj taken]
        exact Nat.le_add_left _ _
      · cases taken

theorem within_atEnd : atEnd.Within := by
  intro input count taken
  unfold atEnd at taken
  split at taken
  · rw [← Option.some.inj taken]
    exact Nat.zero_le _
  · cases taken

theorem within_absent (measure : Measure) : (absent measure).Within := by
  intro input count taken
  unfold absent at taken
  split at taken
  · cases taken
  · rw [← Option.some.inj taken]
    exact Nat.zero_le _

section Single

variable {test accepts : Token → Bool} {rest : List Measure}

theorem firstOf_single (test : Token → Bool) : firstOf [single test] = single test := by
  funext input
  exact Option.or_none

theorem firstOf_single_cons (behind : firstOf rest = single accepts) :
    firstOf (single test :: rest) = single fun token => test token || accepts token := by
  funext input
  rw [firstOf, behind]
  cases input with
  | nil => rfl
  | cons token _ => by_cases passed : test token = true <;> simp [single, passed]

theorem firstOf_map_single {α : Type} (items : List α) (test : α → Token → Bool) :
    firstOf (items.map fun item => single (test item)) =
      single fun token => items.any fun item => test item token := by
  induction items with
  | nil =>
      funext input
      cases input <;> rfl
  | cons item rest ih => exact firstOf_single_cons ih

theorem inSequence_single (test : Token → Bool) : inSequence [single test] = single test := by
  funext input
  cases taken : single test input <;> simp [inSequence, taken]

theorem inSequence_absent_cons (behind : inSequence rest = single accepts) :
    inSequence (absent (single test) :: rest) =
      single fun token => !test token && accepts token := by
  funext input
  rw [inSequence, behind]
  cases input with
  | nil => rfl
  | cons token _ => by_cases passed : test token = true <;> simp [absent, single, passed]

end Single

end Measure

namespace Step

open TokenGrammar.Measure

def measured (measure : Measure) : Step := fun input bindings =>
  match measure input with
  | some count => .succeeded (.front input count bindings)
  | none => .failed

theorem one_eq_measured (accepts : Token → Bool) : one accepts = measured (single accepts) := by
  funext input bindings
  unfold one measured single
  cases input with
  | nil => rfl
  | cons token rest => cases accepted : accepts token <;> simp [accepted]

theorem lookahead_eq_measured :
    lookahead (fun input _ => input.isEmpty) = measured atEnd := by
  funext input bindings
  cases input <;> rfl

theorem negation_measured (measure : Measure) :
    negation (measured measure) = measured (absent measure) := by
  funext input bindings
  unfold negation measured absent
  cases measure input <;> rfl

theorem sequenceFrom_measured {measures : List Measure}
    (within : ∀ measure ∈ measures, measure.Within) (input : List Token) (position : Nat)
    (bindings : Bindings) :
    sequenceFrom input (measures.map fun measure => (measured measure, none)) position bindings =
      match inSequence measures (input.drop position) with
      | some count => .succeeded (.front input (position + count) bindings)
      | none => .failed := by
  induction measures generalizing position with
  | nil => rfl
  | cons measure rest ih =>
      have later := ih fun other member => within other (List.mem_cons_of_mem _ member)
      rw [List.map_cons, sequenceFrom, inSequence, measured]
      cases taken : measure (input.drop position) with
      | none =>
          dsimp only
          rw [taken]
          rfl
      | some count =>
          have inside := within measure List.mem_cons_self _ _ taken
          dsimp only [Outcome.bind, Success.front]
          rw [taken, Nat.min_eq_left inside, later, Option.bind_some, List.drop_drop]
          cases inSequence rest (input.drop (position + count)) with
          | none => rfl
          | some others => simp only [Option.map_some, Nat.add_assoc, Success.front]

theorem sequence_measured {measures : List Measure}
    (within : ∀ measure ∈ measures, measure.Within) :
    sequence (measures.map fun measure => (measured measure, none)) =
      measured (inSequence measures) := by
  funext input bindings
  unfold sequence
  rw [sequenceFrom_measured within, List.drop_zero]
  simp only [Nat.zero_add, measured]

theorem choice_measured (measures : List Measure) :
    choice (measures.map measured) = measured (firstOf measures) := by
  induction measures with
  | nil =>
      funext input bindings
      rfl
  | cons measure rest ih =>
      funext input bindings
      rw [List.map_cons, choice, ih]
      dsimp only [measured, firstOf]
      cases measure input with
      | none => simp
      | some count => simp

end Step

end TokenGrammar
