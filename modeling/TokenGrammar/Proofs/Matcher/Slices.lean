import TokenGrammar.Proofs.Matcher.Regrouping
import TokenGrammar.Registry.Evaluation
/-!
Steps that report more tokens than there are. Sequences and repetitions cut such reports back: they never
ask for a stretch of the input that does not exist, and what they report themselves is a front of it. For
this they are run with every stretch checked, which makes no difference.
-/

namespace TokenGrammar

def slice? (tokens : List Token) (first last : Nat) : Option (List Token) :=
  if first ≤ last ∧ last ≤ tokens.length then some ((tokens.take last).drop first) else none

theorem slice?_behind {tokens : List Token} {position : Nat} (inside : position ≤ tokens.length) :
    slice? tokens position tokens.length = some (tokens.drop position) := by
  simp [slice?, inside]

theorem slice?_front {tokens : List Token} {count : Nat} (inside : count ≤ tokens.length) :
    slice? tokens 0 count = some (tokens.take count) := by
  simp [slice?, inside]

namespace Success

def front? (input : List Token) (count : Nat) (bindings : Bindings) : Option Success :=
  (slice? input 0 count).map fun tokens => ⟨.tokens tokens, bindings, tokens.length⟩

theorem front?_eq {input : List Token} {count : Nat} (inside : count ≤ input.length)
    (bindings : Bindings) : front? input count bindings = some (.front input count bindings) := by
  simp [front?, slice?_front inside, front, inside]

structure IsFront (input : List Token) (found : Success) : Prop where
  within : found.consumed ≤ input.length
  matched : found.matched = .tokens (input.take found.consumed)

end Success

namespace Step

/-- A sequence with every stretch checked. It has no outcome if one of them does not exist. -/
def sequenceChecked (input : List Token) :
    List (Step × Option String) → Nat → Bindings → Option (Outcome Success)
  | [], position, bindings => (Success.front? input position bindings).map .succeeded
  | (step, name) :: rest, position, bindings =>
      (slice? input position input.length).bind fun left =>
        match step left bindings with
        | .unfinished => some .unfinished
        | .failed => some .failed
        | .succeeded found =>
            let taken := min found.consumed left.length
            match name with
            | some name =>
                (slice? left 0 taken).bind fun value =>
                  sequenceChecked input rest (position + taken) (found.bindings.bind name value)
            | none => sequenceChecked input rest (position + taken) found.bindings

def repeatChecked (step : Step) (most : Option Nat) (input : List Token) :
    Nat → Progress → Option (Outcome Progress)
  | 0, progress => some (if most = some progress.count then .succeeded progress else .unfinished)
  | budget + 1, progress =>
      if most = some progress.count then some (.succeeded progress)
      else
        (slice? input progress.position input.length).bind fun left =>
          match step left progress.bindings with
          | .unfinished => some .unfinished
          | .failed => some (.succeeded progress)
          | .succeeded found =>
              if found.consumed = 0 then
                some (.succeeded ⟨progress.position, progress.count + 1, found.bindings⟩)
              else
                repeatChecked step most input budget
                  ⟨min (progress.position + found.consumed) input.length, progress.count + 1,
                    found.bindings⟩

def repetitionChecked (quantifier : Quantifier) (budget : Nat) (step : Step) (input : List Token)
    (bindings : Bindings) : Option (Outcome Success) :=
  (repeatChecked step quantifier.most input budget ⟨0, 0, bindings⟩).bind fun
    | .unfinished => some .unfinished
    | .failed => some .failed
    | .succeeded final =>
        if quantifier.least ≤ final.count then
          (Success.front? input final.position final.bindings).map .succeeded
        else some .failed

section Checked

variable {input : List Token}

theorem sequenceChecked_eq (elements : List (Step × Option String)) {position : Nat}
    (inside : position ≤ input.length) (bindings : Bindings) :
    sequenceChecked input elements position bindings =
      some (sequenceFrom input elements position bindings) := by
  induction elements generalizing position bindings with
  | nil => simp [sequenceChecked, sequenceFrom, Success.front?_eq inside]
  | cons element rest ih =>
      obtain ⟨step, name⟩ := element
      rw [sequenceChecked, sequenceFrom_cons, slice?_behind inside, Option.bind_some]
      cases tried : step (input.drop position) bindings with
      | unfinished => rfl
      | failed => rfl
      | succeeded found =>
          have further : position + min found.consumed (input.drop position).length ≤
              input.length := by
            rw [List.length_drop]
            omega
          cases name with
          | none => exact ih further _
          | some name =>
              dsimp only
              rw [slice?_front (Nat.min_le_right _ _), Option.bind_some]
              exact ih further _

theorem repeatChecked_eq {step : Step} {most : Option Nat} {budget : Nat} {progress : Progress}
    (inside : progress.position ≤ input.length) :
    repeatChecked step most input budget progress =
      some (repeatFrom step most input budget progress) := by
  induction budget generalizing progress with
  | zero => rfl
  | succ budget ih =>
      rw [repeatChecked, repeatFrom, slice?_behind inside, Option.bind_some]
      by_cases ready : most = some progress.count
      · simp only [ready, if_true]
      · simp only [ready, if_false]
        cases step (input.drop progress.position) progress.bindings with
        | unfinished => rfl
        | failed => rfl
        | succeeded found =>
            dsimp only
            split
            · rfl
            · exact ih (Nat.min_le_right _ _)

theorem repetitionChecked_eq (quantifier : Quantifier) (budget : Nat) (step : Step)
    (bindings : Bindings) : repetitionChecked quantifier budget step input bindings =
      some (repetition quantifier budget step input bindings) := by
  have start : (Progress.mk 0 0 bindings).position ≤ input.length := Nat.zero_le _
  rw [repetitionChecked, repeatChecked_eq start, Option.bind_some, repetition]
  cases ended : repeatFrom step quantifier.most input budget ⟨0, 0, bindings⟩ with
  | unfinished => rfl
  | failed => rfl
  | succeeded final =>
      have inside := position_le_of_repeatFrom start ended
      simp only [Outcome.bind, Success.front?_eq inside, Option.map_some]
      split <;> rfl

end Checked

section Fronts

variable {input : List Token} {bindings : Bindings} {found : Success}

theorem isFront_of_sequence {elements : List (Step × Option String)}
    (succeeds : sequence elements input bindings = .succeeded found) : found.IsFront input := by
  obtain ⟨within, front⟩ := front_of_sequenceFrom (Nat.zero_le _) succeeds
  exact ⟨within, congrArg Success.matched front⟩

theorem isFront_of_repetition {quantifier : Quantifier} {budget : Nat} {step : Step}
    (succeeds : repetition quantifier budget step input bindings = .succeeded found) :
    found.IsFront input := by
  obtain ⟨final, ended, enough⟩ := Outcome.bind_eq_succeeded_iff.mp succeeds
  split at enough
  · rw [← Outcome.succeeded.inj enough]
    exact ⟨position_le_of_repeatFrom (Nat.zero_le _) ended, rfl⟩
  · cases enough

end Fronts

def Keeps (step : Step) (name : String) : Prop :=
  ∀ input bindings found, step input bindings = .succeeded found →
    found.bindings.get? name = bindings.get? name

/-- In a sequence that has succeeded, the name of an element was bound to what the element has taken: a
stretch of the input that starts where the elements before it ended. The rest of the sequence has run with
this value, and the name still has it if nothing in the rest binds the name to another one. -/
def BindsStretch (input : List Token) (bindings : Bindings) (before : List (Step × Option String))
    (step : Step) (name : String) (after : List (Step × Option String)) (found : Success) : Prop :=
  ∃ earlier own value, sequence before input bindings = .succeeded earlier ∧
    step (input.drop earlier.consumed) earlier.bindings = .succeeded own ∧
    value = (input.drop earlier.consumed).take own.consumed ∧
    earlier.consumed + value.length ≤ input.length ∧
    sequenceFrom input after (earlier.consumed + value.length) (own.bindings.bind name value) =
      .succeeded found ∧
    ((∀ later ∈ after, later.1.Keeps name ∧ later.2 ≠ some name) →
      found.bindings.get? name = some value)

section Binding

variable {input : List Token} {bindings : Bindings} {found : Success}

theorem get?_of_sequenceFrom {elements : List (Step × Option String)} {name : String}
    (keep : ∀ element ∈ elements, element.1.Keeps name ∧ element.2 ≠ some name) {position : Nat}
    (succeeds : sequenceFrom input elements position bindings = .succeeded found) :
    found.bindings.get? name = bindings.get? name := by
  induction elements generalizing position bindings with
  | nil =>
      rw [← Outcome.succeeded.inj succeeds]
      rfl
  | cons element rest ih =>
      obtain ⟨step, other⟩ := element
      obtain ⟨⟨kept, different⟩, others⟩ := List.forall_mem_cons.mp keep
      rw [sequenceFrom_cons] at succeeds
      obtain ⟨own, first, later⟩ := Outcome.bind_eq_succeeded_iff.mp succeeds
      rw [ih others later, ← kept _ _ _ first]
      cases other with
      | none => rfl
      | some other =>
          have unlike : name ≠ other := fun same => different (congrArg some same.symm)
          simp [Success.bindingsAs, Bindings.get?_bind, unlike]

theorem bindsStretch_of_sequence {before after : List (Step × Option String)} {step : Step}
    {name : String}
    (succeeds : sequence (before ++ (step, some name) :: after) input bindings = .succeeded found) :
    BindsStretch input bindings before step name after found := by
  rw [sequence, sequenceFrom_append] at succeeds
  obtain ⟨earlier, start, later⟩ := Outcome.bind_eq_succeeded_iff.mp succeeds
  rw [sequenceFrom_cons] at later
  obtain ⟨own, tried, rest⟩ := Outcome.bind_eq_succeeded_iff.mp later
  have inside := (isFront_of_sequence start).within
  rw [← List.length_take, Success.bindingsAs, ← List.take_eq_take_min] at rest
  refine ⟨earlier, own, _, start, tried, rfl, ?_, rest, ?_⟩
  · rw [List.length_take, List.length_drop]
    omega
  · intro keep
    rw [get?_of_sequenceFrom keep rest, Bindings.get?_bind, if_pos rfl]

/-- Whatever its steps report, a sequence or a repetition asks for no stretch outside its input. If it
succeeds, then with a front of the input, and a sequence has bound names to stretches of it. -/
theorem checked_eq_some_and_isFront (elements : List (Step × Option String)) (quantifier : Quantifier) (budget : Nat)
    (step : Step) (input : List Token) (bindings : Bindings) :
    (sequenceChecked input elements 0 bindings = some (sequence elements input bindings) ∧
      ∀ found, sequence elements input bindings = .succeeded found →
        found.IsFront input ∧ ∀ before step name after,
          elements = before ++ (step, some name) :: after →
            BindsStretch input bindings before step name after found) ∧
    repetitionChecked quantifier budget step input bindings =
        some (repetition quantifier budget step input bindings) ∧
      ∀ found, repetition quantifier budget step input bindings = .succeeded found →
        found.IsFront input := by
  refine ⟨⟨sequenceChecked_eq elements (Nat.zero_le _) bindings, ?_⟩,
    repetitionChecked_eq quantifier budget step bindings, fun found => isFront_of_repetition⟩
  intro found succeeds
  refine ⟨isFront_of_sequence succeeds, ?_⟩
  intro before step name after same
  subst same
  exact bindsStretch_of_sequence succeeds

/-- Claims of five and of two tokens where there are two: the first gets both, the second none. -/
theorem checked_eq_some_and_isFront_claims : ∃ found,
    sequence [(Registry.run ⟨∅, ∅⟩ 1 (.claim 5), some "x"), (Registry.run ⟨∅, ∅⟩ 1 (.claim 2), none)]
      [.integer 1, .integer 2] ∅ = .succeeded found ∧
    found.consumed = 2 ∧ found.bindings.get? "x" = some [.integer 1, .integer 2] ∧
    found.IsFront [.integer 1, .integer 2] ∧
    BindsStretch [.integer 1, .integer 2] ∅ [] (Registry.run ⟨∅, ∅⟩ 1 (.claim 5)) "x"
      [(Registry.run ⟨∅, ∅⟩ 1 (.claim 2), none)] found := by
  have inside := (checked_eq_some_and_isFront
    [(Registry.run ⟨∅, ∅⟩ 1 (.claim 5), some "x"), (Registry.run ⟨∅, ∅⟩ 1 (.claim 2), none)]
    .zeroOrMore 3 (Registry.run ⟨∅, ∅⟩ 1 (.claim 1)) [.integer 1, .integer 2] ∅).1.2 _ rfl
  exact ⟨_, rfl, rfl, rfl, inside.1, inside.2 [] _ "x" _ rfl⟩

end Binding

end Step

end TokenGrammar
