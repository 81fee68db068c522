import TokenGrammar.Proofs.Matcher.Repetition
import TokenGrammar.Proofs.Matcher.Slices
import TokenGrammar.Proofs.Matcher.Watching
/-!
Greedy repetition. A repeated step that never reports more than what is left is run from each of its
successes to the next, as long as it takes tokens. From this the three quantifiers get the laws by which
they can be replaced by sequences and choices.
-/

namespace TokenGrammar

theorem Outcome.succeeded_bind {α β : Type} (value : α) (next : α → Outcome β) :
    (Outcome.succeeded value).bind next = next value := rfl

structure Success.SameEnd (found other : Success) : Prop where
  consumed : found.consumed = other.consumed
  bindings : found.bindings = other.bindings

namespace Step

def StaysWithin (step : Step) : Prop :=
  ∀ input bindings found, step input bindings = .succeeded found → found.consumed ≤ input.length

theorem Sound.staysWithin {step : Step} (sound : step.Sound) : step.StaysWithin :=
  fun _ _ _ succeeded => (sound _ _ _ succeeded).within

theorem staysWithin_sequence (elements : List (Step × Option String)) :
    (sequence elements).StaysWithin :=
  fun _ _ _ succeeds => (isFront_of_sequence succeeds).within

theorem staysWithin_repetition (quantifier : Quantifier) (budget : Nat) (step : Step) :
    (repetition quantifier budget step).StaysWithin :=
  fun _ _ _ succeeds => (isFront_of_repetition succeeds).within

theorem staysWithin_choice {steps : List Step} (within : ∀ step ∈ steps, step.StaysWithin) :
    (choice steps).StaysWithin := by
  intro input bindings found succeeded
  obtain ⟨step, member, here⟩ := exists_mem_of_choice succeeded
  exact within step member input bindings found here

def Advances (step : Step) (input : List Token) (progress next : Progress) : Prop :=
  ∃ found, step (input.drop progress.position) progress.bindings = .succeeded found ∧
    0 < found.consumed ∧
    next = ⟨progress.position + found.consumed, progress.count + 1, found.bindings⟩

/-- A success with all that a run of the step takes, up to where it fails or takes nothing. -/
def RunsTo (step : Step) (input : List Token) (bindings : Bindings) (found : Success) : Prop :=
  ∃ last final, Relation.ReflTransGen (step.Advances input) ⟨0, 0, bindings⟩ last ∧
    step.Stops input last (.succeeded final) ∧
    found = .front input final.position final.bindings

/-- What the three quantifiers do with a step on an input: two of them never fail, and one only if the step
fails at once; those without a limit come to the end of a run of the step; and each does what a choice or
a sequence does in its stead. -/
structure RepeatsGreedily (step : Step) (budget : Nat) (input : List Token) (bindings : Bindings) :
    Prop where
  returns : (∀ rest, step.Ends rest) → ∀ quantifier,
    repetition quantifier budget step input bindings ≠ .unfinished
  zeroOrMore_ne_failed : repetition .zeroOrMore budget step input bindings ≠ .failed
  optional_ne_failed : repetition .optional budget step input bindings ≠ .failed
  oneOrMore_failed_iff : repetition .oneOrMore budget step input bindings = .failed ↔
    step input bindings = .failed
  zeroOrMore_runsTo : ∀ found, repetition .zeroOrMore budget step input bindings = .succeeded found ↔
    step.RunsTo input bindings found
  oneOrMore_runsTo : ∀ found, repetition .oneOrMore budget step input bindings = .succeeded found ↔
    step input bindings ≠ .failed ∧ step.RunsTo input bindings found
  zeroOrMore_choice : repetition .zeroOrMore budget step input bindings =
    choice [repetition .oneOrMore budget step, sequence []] input bindings
  optional_choice : (repetition .optional budget step input bindings).Alike Success.SameEnd
    (choice [step, sequence []] input bindings)
  oneOrMore_sequence : ¬ step.TakesNothing → repetition .oneOrMore budget step input bindings =
    sequence [(step, none), (repetition .zeroOrMore budget step, none)] input bindings

section Trying

variable {step : Step} {input : List Token} {bindings : Bindings} {budget : Nat}

theorem repeatFrom_ne_failed {most : Option Nat} {progress : Progress} :
    repeatFrom step most input budget progress ≠ .failed := by
  induction budget generalizing progress with
  | zero =>
      unfold repeatFrom
      split <;> simp
  | succ budget ih =>
      unfold repeatFrom
      split
      · simp
      · split
        · simp
        · simp
        · split
          · simp
          · exact ih

theorem repetition_ne_failed {quantifier : Quantifier} (least : quantifier.least = 0) :
    repetition quantifier budget step input bindings ≠ .failed := by
  unfold repetition
  cases ended : repeatFrom step quantifier.most input budget ⟨0, 0, bindings⟩ with
  | unfinished => simp [Outcome.bind]
  | failed => exact absurd ended repeatFrom_ne_failed
  | succeeded final => simp [Outcome.bind, least]

theorem zeroOrMore_eq : repetition .zeroOrMore budget step input bindings =
    (repeatFrom step none input budget ⟨0, 0, bindings⟩).bind fun final =>
      .succeeded (.front input final.position final.bindings) := by
  simp [repetition, Quantifier.most, Quantifier.least]

theorem zeroOrMore_of_unfinished (cut : step input bindings = .unfinished) :
    repetition .zeroOrMore budget step input bindings = .unfinished := by
  cases budget with
  | zero => rfl
  | succ budget =>
      rw [zeroOrMore_eq, repeatFrom_of_stops (.unfinished cut)]
      rfl

theorem repeatFrom_of_failed (fails : step input bindings = .failed) (positive : 0 < budget) :
    repeatFrom step none input budget ⟨0, 0, bindings⟩ = .succeeded ⟨0, 0, bindings⟩ := by
  obtain ⟨more, rfl⟩ := Nat.exists_eq_add_one.mpr positive
  exact repeatFrom_of_stops (.failed fails)

theorem zeroOrMore_of_failed (fails : step input bindings = .failed) (positive : 0 < budget) :
    repetition .zeroOrMore budget step input bindings = .succeeded (.front input 0 bindings) := by
  rw [zeroOrMore_eq, repeatFrom_of_failed fails positive]
  rfl

theorem oneOrMore_of_failed (fails : step input bindings = .failed) (positive : 0 < budget) :
    repetition .oneOrMore budget step input bindings = .failed := by
  simp [repetition, Quantifier.most, Quantifier.least, repeatFrom_of_failed fails positive,
    Outcome.bind]

theorem one_le_count (tried : step input bindings ≠ .failed) {final : Progress}
    (ended : repeatFrom step none input budget ⟨0, 0, bindings⟩ = .succeeded final) :
    1 ≤ final.count := by
  cases budget with
  | zero => simp [repeatFrom] at ended
  | succ budget =>
      rcases exists_goesOn_or_stops step input ⟨0, 0, bindings⟩ with ⟨next, goes⟩ | ⟨_, stops⟩
      · rw [repeatFrom_of_goesOn goes] at ended
        have once : 1 ≤ next.count := Nat.le_of_eq (count_of_goesOn goes).symm
        refine @repeatFrom_keeps (1 ≤ ·.count) _ _ _ ?_ ?_ _ _ _ once ended
        · intro _ _ _ _ _
          exact Nat.le_add_left _ _
        · intro _ _ _ _ _
          exact Nat.le_add_left _ _
      · rw [repeatFrom_of_stops stops] at ended
        subst ended
        cases stops with
        | failed fails => exact absurd fails tried
        | nothing _ _ => exact Nat.le_refl _

theorem oneOrMore_eq_zeroOrMore (tried : step input bindings ≠ .failed) :
    repetition .oneOrMore budget step input bindings =
      repetition .zeroOrMore budget step input bindings := by
  rw [zeroOrMore_eq, repetition]
  refine Outcome.bind_congr fun final ended => ?_
  exact if_pos (one_le_count tried ended)

theorem oneOrMore_eq_failed_iff (positive : 0 < budget) :
    repetition .oneOrMore budget step input bindings = .failed ↔ step input bindings = .failed := by
  constructor
  · intro failed
    by_contra tried
    rw [oneOrMore_eq_zeroOrMore tried] at failed
    exact repetition_ne_failed rfl failed
  · exact fun fails => oneOrMore_of_failed fails positive

theorem zeroOrMore_eq_choice (positive : 0 < budget) :
    repetition .zeroOrMore budget step input bindings =
      choice [repetition .oneOrMore budget step, sequence []] input bindings := by
  rw [choice_cons]
  by_cases tried : step input bindings = .failed
  · rw [oneOrMore_of_failed tried positive, zeroOrMore_of_failed tried positive]
    rfl
  · rw [oneOrMore_eq_zeroOrMore tried]
    split
    next failed => exact absurd failed (repetition_ne_failed rfl)
    next => rfl

theorem optional_eq (positive : 0 < budget) :
    repetition .optional budget step input bindings =
      match step input bindings with
      | .unfinished => .unfinished
      | .failed => .succeeded (.front input 0 bindings)
      | .succeeded found =>
          .succeeded (.front input (min found.consumed input.length) found.bindings) := by
  obtain ⟨more, rfl⟩ := Nat.exists_eq_add_one.mpr positive
  have once : ∀ progress : Progress, progress.count = 1 →
      repeatFrom step (some 1) input more progress = .succeeded progress := by
    intro progress counted
    cases more <;> simp [repeatFrom, counted]
  cases tried : step input bindings with
  | unfinished => simp [repetition, Quantifier.most, repeatFrom, tried, Outcome.bind]
  | failed =>
      simp [repetition, Quantifier.most, Quantifier.least, repeatFrom, tried, Outcome.bind]
  | succeeded found =>
      by_cases none : found.consumed = 0
      · simp [repetition, Quantifier.most, Quantifier.least, repeatFrom, tried, none, Outcome.bind]
      · simp [repetition, Quantifier.most, Quantifier.least, repeatFrom, tried, none, once,
          Outcome.bind]

theorem optional_alike (within : step.StaysWithin) (positive : 0 < budget) :
    (repetition .optional budget step input bindings).Alike Success.SameEnd
      (choice [step, sequence []] input bindings) := by
  rw [optional_eq positive, choice_cons]
  cases tried : step input bindings with
  | unfinished => exact .unfinished
  | failed => exact .succeeded ⟨rfl, rfl⟩
  | succeeded found => exact .succeeded ⟨Nat.min_eq_left (within _ _ _ tried), rfl⟩

end Trying

theorem StaysWithin.restsAtEnd {step : Step} (within : step.StaysWithin) : step.RestsAtEnd :=
  fun bindings found succeeds => Nat.le_zero.mp (within [] bindings found succeeds)

section Runs

variable {step : Step} {input : List Token} {first last progress next : Progress}

theorem goesOn_iff_advances (within : step.StaysWithin)
    (inside : progress.position ≤ input.length) :
    step.GoesOn input progress next ↔ step.Advances input progress next := by
  have whole : ∀ found, step (input.drop progress.position) progress.bindings = .succeeded found →
      min (progress.position + found.consumed) input.length =
        progress.position + found.consumed := by
    intro found succeeds
    have fits := within _ _ _ succeeds
    rw [List.length_drop] at fits
    omega
  constructor
  · rintro ⟨found, succeeds, some, rfl⟩
    exact ⟨found, succeeds, Nat.pos_of_ne_zero some, by rw [whole found succeeds]⟩
  · rintro ⟨found, succeeds, some, rfl⟩
    exact ⟨found, succeeds, Nat.ne_of_gt some, by rw [whole found succeeds]⟩

theorem run_iff_advances (within : step.StaysWithin) (inside : first.position ≤ input.length) :
    Relation.ReflTransGen (step.GoesOn input) first last ↔
      Relation.ReflTransGen (step.Advances input) first last := by
  constructor
  · intro run
    induction run with
    | refl => exact .refl
    | tail before goes ih =>
        have here := (position_of_run within.restsAtEnd inside before).2
        exact ih.tail ((goesOn_iff_advances within here).mp goes)
  · intro run
    induction run with
    | refl => exact .refl
    | tail _ advances ih =>
        have here := (position_of_run within.restsAtEnd inside ih).2
        exact ih.tail ((goesOn_iff_advances within here).mpr advances)

theorem repeatFrom_budget (rests : step.RestsAtEnd) (inside : first.position ≤ input.length)
    {budget other : Nat} (enough : input.length < first.position + budget)
    (otherEnough : input.length < first.position + other) :
    repeatFrom step none input budget first = repeatFrom step none input other first := by
  obtain ⟨last, outcome, run, stops, limit⟩ := exists_run_of_restsAtEnd rests inside
  rw [repeatFrom_of_run run stops (by omega), repeatFrom_of_run run stops (by omega)]

theorem zeroOrMore_eq_succeeded_iff (within : step.StaysWithin) {budget : Nat}
    (enough : input.length < budget) {bindings : Bindings} {found : Success} :
    repetition .zeroOrMore budget step input bindings = .succeeded found ↔
      step.RunsTo input bindings found := by
  have start : (Progress.mk 0 0 bindings).position ≤ input.length := Nat.zero_le _
  rw [zeroOrMore_eq, Outcome.bind_eq_succeeded_iff]
  constructor
  · rintro ⟨final, ended, front⟩
    obtain ⟨last, outcome, run, stops, limit⟩ := exists_run_of_restsAtEnd within.restsAtEnd start
    have fits : last.count < 0 + budget := by
      dsimp only at limit
      omega
    obtain rfl : outcome = .succeeded final := (repeatFrom_of_run run stops fits).symm.trans ended
    exact ⟨last, final, (run_iff_advances within start).mp run, stops,
      (Outcome.succeeded.inj front).symm⟩
  · rintro ⟨last, final, advances, stops, rfl⟩
    have run := (run_iff_advances within start).mpr advances
    have limit := position_of_run within.restsAtEnd start run
    have fits : last.count < 0 + budget := by
      dsimp only at limit
      omega
    exact ⟨final, repeatFrom_of_run run stops fits, rfl⟩

theorem oneOrMore_eq_succeeded_iff (within : step.StaysWithin) {budget : Nat}
    (enough : input.length < budget) {bindings : Bindings} {found : Success} :
    repetition .oneOrMore budget step input bindings = .succeeded found ↔
      step input bindings ≠ .failed ∧ step.RunsTo input bindings found := by
  by_cases tried : step input bindings = .failed
  · rw [oneOrMore_of_failed tried (Nat.zero_lt_of_lt enough)]
    simp [tried]
  · rw [oneOrMore_eq_zeroOrMore tried, zeroOrMore_eq_succeeded_iff within enough]
    simp [tried]

theorem repetition_ne_unfinished (within : step.StaysWithin) (returns : ∀ rest, step.Ends rest)
    {budget : Nat} (enough : input.length < budget) {bindings : Bindings}
    (quantifier : Quantifier) :
    repetition quantifier budget step input bindings ≠ .unfinished := by
  obtain ⟨tries, limit, stopsAfter⟩ :=
    exists_stopsAfter_of_restsAtEnd within.restsAtEnd input bindings
  have allowed : tries ≤ budget := by omega
  cases quantifier with
  | oneOrMore => exact (stopsAfter.repetition_ne_unfinished_iff returns rfl).mpr allowed
  | zeroOrMore => exact (stopsAfter.repetition_ne_unfinished_iff returns rfl).mpr allowed
  | optional =>
      rw [optional_eq (Nat.zero_lt_of_lt enough)]
      split
      next cut => exact absurd cut (returns _ _)
      next => simp
      next => simp

end Runs

section Unfolding

variable {step : Step} {input : List Token} {position : Nat} {progress : Progress}

def Progress.behind (progress : Progress) (position count : Nat) : Progress :=
  ⟨position + progress.position, count + progress.count, progress.bindings⟩

theorem GoesOn.behind {next : Progress} (inside : position ≤ input.length) (count : Nat)
    (goes : step.GoesOn (input.drop position) progress next) :
    step.GoesOn input (progress.behind position count) (next.behind position count) := by
  obtain ⟨found, succeeds, some, rfl⟩ := goes
  rw [List.drop_drop] at succeeds
  refine ⟨found, succeeds, some, ?_⟩
  simp only [Progress.behind, List.length_drop, Progress.mk.injEq, and_true]
  omega

theorem Stops.behind {outcome : Outcome Progress} (count : Nat)
    (stops : step.Stops (input.drop position) progress outcome) :
    step.Stops input (progress.behind position count)
      (outcome.bind fun final => .succeeded (final.behind position count)) := by
  cases stops with
  | unfinished cut =>
      rw [List.drop_drop] at cut
      exact .unfinished cut
  | failed fails =>
      rw [List.drop_drop] at fails
      exact .failed fails
  | nothing succeeds none =>
      rw [List.drop_drop] at succeeds
      exact .nothing succeeds none

theorem repeatFrom_behind (inside : position ≤ input.length) (count budget : Nat)
    (progress : Progress) :
    repeatFrom step none input budget (progress.behind position count) =
      (repeatFrom step none (input.drop position) budget progress).bind fun final =>
        .succeeded (final.behind position count) := by
  induction budget generalizing progress with
  | zero => simp [repeatFrom, Outcome.bind]
  | succ budget ih =>
      rcases exists_goesOn_or_stops step (input.drop position) progress with
        ⟨next, goes⟩ | ⟨outcome, stops⟩
      · rw [repeatFrom_of_goesOn goes, repeatFrom_of_goesOn (goes.behind inside count), ih]
      · rw [repeatFrom_of_stops stops, repeatFrom_of_stops (stops.behind count)]

theorem zeroOrMore_of_succeeded (within : step.StaysWithin) {bindings : Bindings} {budget : Nat}
    (enough : input.length < budget) {found : Success}
    (succeeds : step input bindings = .succeeded found) (some : found.consumed ≠ 0) :
    repetition .zeroOrMore budget step input bindings =
      (repetition .zeroOrMore budget step (input.drop found.consumed) found.bindings).bind
        fun later => .succeeded (.front input (found.consumed + later.consumed) later.bindings) := by
  have fits : found.consumed ≤ input.length := within _ _ _ succeeds
  obtain ⟨more, rfl⟩ := Nat.exists_eq_add_one.mpr (Nat.zero_lt_of_lt enough)
  have goes : step.GoesOn input ⟨0, 0, bindings⟩
      (Progress.behind ⟨0, 0, found.bindings⟩ found.consumed 1) := by
    refine ⟨found, succeeds, some, ?_⟩
    simp [Progress.behind, Nat.min_eq_left fits]
  -- The first success has taken a token, so that one try less is enough for the rest.
  have rest : repeatFrom step none (input.drop found.consumed) more ⟨0, 0, found.bindings⟩ =
      repeatFrom step none (input.drop found.consumed) (more + 1) ⟨0, 0, found.bindings⟩ := by
    refine repeatFrom_budget within.restsAtEnd (Nat.zero_le _) ?_ ?_
    · simp only [List.length_drop]
      omega
    · simp only [List.length_drop]
      omega
  rw [zeroOrMore_eq, repeatFrom_of_goesOn goes, repeatFrom_behind fits, rest, zeroOrMore_eq,
    Outcome.bind_assoc, Outcome.bind_assoc]
  rfl

theorem oneOrMore_eq_sequence (within : step.StaysWithin) (takes : ¬ step.TakesNothing)
    {bindings : Bindings} {budget : Nat} (enough : input.length < budget) :
    repetition .oneOrMore budget step input bindings =
      sequence [(step, none), (repetition .zeroOrMore budget step, none)] input bindings := by
  rw [sequence, sequenceFrom_cons, List.drop_zero]
  cases tried : step input bindings with
  | unfinished =>
      rw [oneOrMore_eq_zeroOrMore (by simp [tried]), zeroOrMore_of_unfinished tried]
      rfl
  | failed =>
      rw [oneOrMore_of_failed tried (Nat.zero_lt_of_lt enough)]
      rfl
  | succeeded found =>
      have some : found.consumed ≠ 0 := fun none => takes ⟨_, _, found, tried, none⟩
      have fits : found.consumed ≤ input.length := within _ _ _ tried
      rw [oneOrMore_eq_zeroOrMore (by simp [tried]), zeroOrMore_of_succeeded within enough tried some,
        Outcome.succeeded_bind, Nat.min_eq_left fits, Nat.zero_add, sequenceFrom_cons]
      refine Outcome.bind_congr fun later succeeds => ?_
      rw [Nat.min_eq_left (isFront_of_repetition succeeds).within]
      rfl

end Unfolding

/-- Repetition of a step that never reports more than is left is greedy, and the budget makes no
difference to it if it is greater than the number of tokens. -/
theorem repeatsGreedily_of_staysWithin {step : Step} (within : step.StaysWithin) {budget : Nat}
    {input : List Token} (enough : input.length < budget) (bindings : Bindings) :
    step.RepeatsGreedily budget input bindings := by
  have positive : 0 < budget := Nat.zero_lt_of_lt enough
  exact {
    returns := fun returns quantifier => repetition_ne_unfinished within returns enough quantifier
    zeroOrMore_ne_failed := repetition_ne_failed rfl
    optional_ne_failed := repetition_ne_failed rfl
    oneOrMore_failed_iff := oneOrMore_eq_failed_iff positive
    zeroOrMore_runsTo := fun _ => zeroOrMore_eq_succeeded_iff within enough
    oneOrMore_runsTo := fun _ => oneOrMore_eq_succeeded_iff within enough
    zeroOrMore_choice := zeroOrMore_eq_choice positive
    optional_choice := optional_alike within positive
    oneOrMore_sequence := fun takes => oneOrMore_eq_sequence within takes enough }

/-- A number under a name, again and again up to a symbol: the name is left with the last number. -/
theorem repeatsGreedily_of_staysWithin_numbers : ∃ found : Success,
    (sequence [(one Token.isNumber, some "x")]).StaysWithin ∧
    [Token.integer 1, .integer 2, .symbol "a"].length < 4 ∧
    repetition .zeroOrMore 4 (sequence [(one Token.isNumber, some "x")])
      [.integer 1, .integer 2, .symbol "a"] ∅ = .succeeded found ∧
    found.consumed = 2 ∧ found.bindings.get? "x" = some [.integer 2] ∧
    (sequence [(one Token.isNumber, some "x")]).RepeatsGreedily 4
      [.integer 1, .integer 2, .symbol "a"] ∅ :=
  ⟨_, staysWithin_sequence _, by decide, rfl, rfl, rfl,
    repeatsGreedily_of_staysWithin (staysWithin_sequence _) (by decide) ∅⟩

end Step

end TokenGrammar
