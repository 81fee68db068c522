import Mathlib.Logic.Relation
import TokenGrammar.Proofs.Matcher.Ending
import TokenGrammar.Registry.Evaluation
/-!
Repetitions as runs of a step. A repetition goes on from each success that reports some tokens, and stops
where its step fails or takes nothing. It tries its step once more often than it goes on. With a step that
takes nothing at the end of the input, it goes on at most once for each token; a step that claims tokens
there is tried again and again at the same place.
-/

namespace TokenGrammar

namespace Step

/-- The step succeeds and reports some tokens, and the repetition goes on behind them, or at the end of
the input if there are not so many. -/
def GoesOn (step : Step) (input : List Token) (progress next : Progress) : Prop :=
  ∃ found, step (input.drop progress.position) progress.bindings = .succeeded found ∧
    found.consumed ≠ 0 ∧
    next = ⟨min (progress.position + found.consumed) input.length, progress.count + 1,
      found.bindings⟩

inductive Stops (step : Step) (input : List Token) (progress : Progress) : Outcome Progress → Prop
  | unfinished (cut : step (input.drop progress.position) progress.bindings = .unfinished) :
      Stops step input progress .unfinished
  | failed (fails : step (input.drop progress.position) progress.bindings = .failed) :
      Stops step input progress (.succeeded progress)
  | nothing {found : Success}
      (succeeds : step (input.drop progress.position) progress.bindings = .succeeded found)
      (none : found.consumed = 0) :
      Stops step input progress
        (.succeeded ⟨progress.position, progress.count + 1, found.bindings⟩)

/-- A repetition without a limit stops after exactly so many tries of its step: one for each success from
which it goes on, and one where it stops. -/
def StopsAfter (step : Step) (input : List Token) (bindings : Bindings) (tries : Nat) : Prop :=
  ∃ last outcome, Relation.ReflTransGen (step.GoesOn input) ⟨0, 0, bindings⟩ last ∧
    step.Stops input last outcome ∧ tries = last.count + 1

/-- A repetition ends and tries its step at most so often. The number of its tries is the least budget with
which it comes to its end. -/
def TriesAtMost (quantifier : Quantifier) (step : Step) (input : List Token) (bindings : Bindings)
    (limit : Nat) : Prop :=
  ∃ tries ≤ limit, step.StopsAfter input bindings tries ∧
    ∀ budget, repetition quantifier budget step input bindings ≠ .unfinished ↔ tries ≤ budget

def RestsAtEnd (step : Step) : Prop :=
  ∀ bindings found, step [] bindings = .succeeded found → found.consumed = 0

section Runs

variable {step : Step} {input : List Token} {progress next first last : Progress}
  {outcome : Outcome Progress} {budget : Nat}

theorem exists_goesOn_or_stops (step : Step) (input : List Token) (progress : Progress) :
    (∃ next, step.GoesOn input progress next) ∨ ∃ outcome, step.Stops input progress outcome := by
  cases tried : step (input.drop progress.position) progress.bindings with
  | unfinished => exact .inr ⟨_, .unfinished tried⟩
  | failed => exact .inr ⟨_, .failed tried⟩
  | succeeded found =>
      by_cases none : found.consumed = 0
      · exact .inr ⟨_, .nothing tried none⟩
      · exact .inl ⟨_, found, tried, none, rfl⟩

theorem repeatFrom_of_goesOn (goes : step.GoesOn input progress next) :
    repeatFrom step none input (budget + 1) progress = repeatFrom step none input budget next := by
  obtain ⟨found, succeeds, some, rfl⟩ := goes
  simp [repeatFrom, succeeds, some]

theorem repeatFrom_of_stops (stops : step.Stops input progress outcome) :
    repeatFrom step none input (budget + 1) progress = outcome := by
  cases stops with
  | unfinished cut => simp [repeatFrom, cut]
  | failed fails => simp [repeatFrom, fails]
  | nothing succeeds none => simp [repeatFrom, succeeds, none]

theorem count_of_goesOn (goes : step.GoesOn input progress next) :
    next.count = progress.count + 1 := by
  obtain ⟨_, _, _, rfl⟩ := goes
  rfl

theorem count_le_of_run (run : Relation.ReflTransGen (step.GoesOn input) first last) :
    first.count ≤ last.count := by
  induction run with
  | refl => exact Nat.le_refl _
  | tail _ goes ih =>
      have once := count_of_goesOn goes
      omega

theorem repeatFrom_of_run (run : Relation.ReflTransGen (step.GoesOn input) first last)
    (stops : step.Stops input last outcome) (enough : last.count < first.count + budget) :
    repeatFrom step none input budget first = outcome := by
  induction run using Relation.ReflTransGen.head_induction_on generalizing budget with
  | refl =>
      obtain ⟨more, rfl⟩ := Nat.exists_eq_add_one.mpr (by omega : 0 < budget)
      exact repeatFrom_of_stops stops
  | head goes later ih =>
      have once := count_of_goesOn goes
      have further := count_le_of_run later
      obtain ⟨more, rfl⟩ := Nat.exists_eq_add_one.mpr (by omega : 0 < budget)
      rw [repeatFrom_of_goesOn goes]
      exact ih (by omega)

theorem repeatFrom_of_long_run (run : Relation.ReflTransGen (step.GoesOn input) first last)
    (long : first.count + budget ≤ last.count) :
    repeatFrom step none input budget first = .unfinished := by
  induction run using Relation.ReflTransGen.head_induction_on generalizing budget with
  | refl =>
      obtain rfl : budget = 0 := by omega
      simp [repeatFrom]
  | head goes later ih =>
      cases budget with
      | zero => simp [repeatFrom]
      | succ more =>
          have once := count_of_goesOn goes
          rw [repeatFrom_of_goesOn goes]
          exact ih (by omega)

theorem exists_run (step : Step) (input : List Token) (times : Nat) (first : Progress) :
    ∃ last, Relation.ReflTransGen (step.GoesOn input) first last ∧
      (last.count = first.count + times ∨ ∃ outcome, step.Stops input last outcome) := by
  induction times with
  | zero => exact ⟨first, .refl, .inl rfl⟩
  | succ times ih =>
      obtain ⟨last, run, reached | stops⟩ := ih
      · rcases exists_goesOn_or_stops step input last with ⟨next, goes⟩ | stops
        · have once := count_of_goesOn goes
          exact ⟨next, run.tail goes, .inl (by omega)⟩
        · exact ⟨last, run, .inr stops⟩
      · exact ⟨last, run, .inr stops⟩

theorem Stops.ne_unfinished (stops : step.Stops input progress outcome)
    (returns : ∀ rest, step.Ends rest) : outcome ≠ .unfinished := by
  cases stops with
  | unfinished cut => exact absurd cut (returns _ _)
  | failed _ => simp
  | nothing _ _ => simp

theorem StopsAfter.repetition_ne_unfinished_iff {bindings : Bindings} {tries : Nat}
    (stopsAfter : step.StopsAfter input bindings tries) (returns : ∀ rest, step.Ends rest)
    {quantifier : Quantifier} (unlimited : quantifier.most = none) :
    repetition quantifier budget step input bindings ≠ .unfinished ↔ tries ≤ budget := by
  obtain ⟨last, outcome, run, stops, rfl⟩ := stopsAfter
  unfold repetition
  rw [unlimited]
  constructor
  · intro finished
    by_contra short
    have long : 0 + budget ≤ last.count := by omega
    rw [repeatFrom_of_long_run run long] at finished
    exact finished rfl
  · intro enough
    have within : last.count < 0 + budget := by omega
    rw [repeatFrom_of_run run stops within]
    refine Outcome.bind_ne_unfinished (stops.ne_unfinished returns) fun final _ => ?_
    split <;> simp

end Runs

section Resting

variable {step : Step} {input : List Token} {progress next first last : Progress}

theorem position_of_goesOn (rests : step.RestsAtEnd) (inside : progress.position ≤ input.length)
    (goes : step.GoesOn input progress next) :
    progress.position < next.position ∧ next.position ≤ input.length := by
  obtain ⟨found, succeeds, some, rfl⟩ := goes
  by_cases atEnd : progress.position = input.length
  · rw [atEnd, List.drop_length] at succeeds
    exact absurd (rests _ _ succeeds) some
  · constructor
    · dsimp only
      omega
    · exact Nat.min_le_right _ _

theorem position_of_run (rests : step.RestsAtEnd) (inside : first.position ≤ input.length)
    (run : Relation.ReflTransGen (step.GoesOn input) first last) :
    last.count + first.position ≤ first.count + last.position ∧
      last.position ≤ input.length := by
  induction run with
  | refl => exact ⟨Nat.le_refl _, inside⟩
  | tail _ goes ih =>
      have once := count_of_goesOn goes
      have moves := position_of_goesOn rests ih.2 goes
      omega

theorem exists_run_of_restsAtEnd (rests : step.RestsAtEnd)
    (inside : first.position ≤ input.length) :
    ∃ last outcome, Relation.ReflTransGen (step.GoesOn input) first last ∧
      step.Stops input last outcome ∧
      last.count + first.position ≤ first.count + input.length := by
  -- It cannot go on once more than there are tokens.
  obtain ⟨last, run, reached⟩ := exists_run step input (input.length + 1) first
  have limit := position_of_run rests inside run
  rcases reached with reached | ⟨outcome, stops⟩
  · omega
  · exact ⟨last, outcome, run, stops, by omega⟩

theorem exists_stopsAfter_of_restsAtEnd (rests : step.RestsAtEnd) (input : List Token)
    (bindings : Bindings) : ∃ tries ≤ input.length + 1, step.StopsAfter input bindings tries := by
  obtain ⟨last, outcome, run, stops, limit⟩ :=
    @exists_run_of_restsAtEnd step input ⟨0, 0, bindings⟩ rests (Nat.zero_le _)
  exact ⟨last.count + 1, by simpa using limit, last, outcome, run, stops, rfl⟩

theorem restsAtEnd_of_stopsAfter
    (short : ∀ bindings, ∃ tries ≤ 1, step.StopsAfter [] bindings tries) : step.RestsAtEnd := by
  intro bindings found succeeds
  obtain ⟨tries, limit, last, outcome, run, stops, rfl⟩ := short bindings
  rcases run.cases_head with same | ⟨next, goes, later⟩
  · subst same
    cases stops with
    | unfinished cut => simp [succeeds] at cut
    | failed fails => simp [succeeds] at fails
    | nothing again none =>
        simp only [List.drop_nil, succeeds, Outcome.succeeded.injEq] at again
        exact again ▸ none
  · have once := count_of_goesOn goes
    have further := count_le_of_run later
    dsimp only at once
    omega

/-- A repetition tries its step at most once more than there are tokens, on every input, exactly if the
step takes nothing at the end of the input, whatever it reports elsewhere. -/
theorem triesAtMost_iff_restsAtEnd {step : Step} (returns : ∀ rest, step.Ends rest)
    {quantifier : Quantifier} (unlimited : quantifier.most = none) :
    (∀ input bindings, TriesAtMost quantifier step input bindings (input.length + 1)) ↔
      step.RestsAtEnd := by
  constructor
  · intro bounded
    refine restsAtEnd_of_stopsAfter fun bindings => ?_
    obtain ⟨tries, limit, stopsAfter, _⟩ := bounded [] bindings
    exact ⟨tries, limit, stopsAfter⟩
  · intro rests input bindings
    obtain ⟨tries, limit, stopsAfter⟩ := exists_stopsAfter_of_restsAtEnd rests input bindings
    exact ⟨tries, limit, stopsAfter,
      fun budget => stopsAfter.repetition_ne_unfinished_iff returns unlimited⟩

def overstating : Step := fun input bindings =>
  if input.isEmpty then .failed else .succeeded ⟨.tokens [], bindings, input.length + 7⟩

theorem triesAtMost_iff_restsAtEnd_overstating : (∀ rest, overstating.Ends rest) ∧
    (∃ found, overstating [.integer 1, .integer 2] ∅ = .succeeded found ∧ found.consumed = 9) ∧
    Quantifier.oneOrMore.most = none ∧ overstating.RestsAtEnd ∧
    TriesAtMost .oneOrMore overstating [.integer 1, .integer 2] ∅ 3 := by
  have returns : ∀ rest, overstating.Ends rest := by
    intro rest bindings
    unfold overstating
    split <;> simp
  have rests : overstating.RestsAtEnd := by
    intro bindings found succeeds
    cases succeeds
  have bounded := (@triesAtMost_iff_restsAtEnd overstating returns .oneOrMore rfl).mpr rests
  exact ⟨returns, ⟨_, rfl, rfl⟩, rfl, rests, bounded [.integer 1, .integer 2] ∅⟩

theorem not_stops_claim {registry : Registry} {level count : Nat} (some : count ≠ 0)
    {outcome : Outcome Progress} :
    ¬ (registry.run (level + 1) (.claim count)).Stops input progress outcome := by
  intro stops
  cases stops with
  | unfinished cut => simp [Registry.run] at cut
  | failed fails => simp [Registry.run] at fails
  | nothing succeeds none =>
      simp only [Registry.run, Outcome.succeeded.injEq] at succeeds
      rw [← succeeds] at none
      exact some none

theorem not_triesAtMost_of_claim : ¬ ∀ (step : Step) (quantifier : Quantifier),
    (∀ rest, step.Ends rest) → quantifier.most = none →
      ∀ input bindings, TriesAtMost quantifier step input bindings (input.length + 1) := by
  intro bounded
  have returns : ∀ rest, Ends (Registry.run ⟨∅, ∅⟩ 1 (.claim 1)) rest := by
    intro rest bindings
    simp [Registry.run]
  obtain ⟨_, _, ⟨_, _, _, stops, _⟩, _⟩ := bounded _ .zeroOrMore returns rfl [] ∅
  exact not_stops_claim Nat.one_ne_zero stops

end Resting

end Step

end TokenGrammar
