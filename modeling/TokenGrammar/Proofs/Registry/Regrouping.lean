import TokenGrammar.Proofs.Form.Cutting
import TokenGrammar.Proofs.Matcher.Greedy
import TokenGrammar.Proofs.Registry.Adequacy
import TokenGrammar.Proofs.Registry.Soundness
/-!
Brackets in bodies. A vector around elements of a sequence, or around alternatives of a body, changes
neither what compiles nor what the compiled matcher comes to. Only a rule that reports more tokens than
there are can be told from itself in brackets: in a sequence it is cut off at the end of the input.
-/

namespace TokenGrammar

namespace Body

theorem exists_alternatives (body : List Token) :
    ∃ first others, alternatives body = first :: others := by
  rcases alternatives_cases body with alone | ⟨sequence, rest, _, cut⟩
  · exact ⟨body, [], alone⟩
  · exact ⟨sequence, alternatives rest, cut⟩

theorem alternatives_append_marker (before after : List Token) :
    alternatives (before ++ .symbol choiceMarker :: after) =
      alternatives before ++ alternatives after := by
  induction before with
  | nil => simp [alternatives, Token.isNamed]
  | cons token rest ih =>
      by_cases marked : token.isNamed choiceMarker = true
      · simp [alternatives, marked, ih]
      · have other := Bool.not_eq_true _ ▸ marked
        obtain ⟨first, others, found⟩ := exists_alternatives rest
        have longer : alternatives (rest ++ .symbol choiceMarker :: after) =
            first :: (others ++ alternatives after) := by
          rw [ih, found, List.cons_append]
        rw [alternatives_cons_of_not_named other found, List.cons_append, List.cons_append]
        exact alternatives_cons_of_not_named other longer

theorem elements_append {before after : List Token} {first second : List Element}
    (cutBefore : elements before = .ok first) (cutAfter : elements after = .ok second) :
    elements (before ++ after) = .ok (first ++ second) := by
  obtain ⟨shape, fits⟩ := (@elementsFrom_eq_ok_iff .standard _ _ _).mp cutBefore
  obtain ⟨shapeAfter, fitsAfter⟩ := (@elementsFrom_eq_ok_iff .standard _ _ _).mp cutAfter
  refine (@elementsFrom_eq_ok_iff .standard _ _ _).mpr ⟨?_, List.forall_mem_append.mpr ⟨fits, fitsAfter⟩⟩
  rw [List.flatMap_append, ← shape, ← shapeAfter]

theorem elements_vector (items : List Token) :
    elements [.vector items] = .ok [⟨[.vector items], none⟩] := by
  refine (@elementsFrom_eq_ok_iff .standard _ _ _).mpr ⟨rfl, List.forall_mem_singleton.mpr ⟨rfl, ?_⟩⟩
  intro name impossible
  cases impossible

end Body

namespace Matcher

theorem sequenceOf_eq_sequence {elements : List (Matcher × Option String)}
    (several : elements.length ≠ 1) : sequenceOf elements = .sequence elements := by
  unfold sequenceOf
  split
  · exact absurd rfl several
  · rfl

theorem choiceOf_eq_choice {alternatives : List Matcher} (several : alternatives.length ≠ 1) :
    choiceOf alternatives = .choice alternatives := by
  unfold choiceOf
  split
  · exact absurd rfl several
  · rfl

end Matcher

namespace Compilation

variable {functions : FunctionTable}

def SequenceAs (functions : FunctionTable) (sequence : List Token)
    (elements : List (Matcher × Option String)) : Prop :=
  ∃ cut, Body.elements sequence = .ok cut ∧
    cut.mapM (elementMatcher functions (compileBody functions)) = .ok elements

def BodyAs (functions : FunctionTable) (body : List Token) (matchers : List Matcher) : Prop :=
  (Body.alternatives body).mapM (sequenceMatcher functions (compileBody functions)) = .ok matchers

theorem sequenceMatcher_eq_ok_iff_sequenceAs {sequence : List Token} {matcher : Matcher} :
    sequenceMatcher functions (compileBody functions) sequence = .ok matcher ↔
      ∃ elements, SequenceAs functions sequence elements ∧ .sequenceOf elements = matcher := by
  rw [sequenceMatcher_eq_ok_iff]
  constructor
  · rintro ⟨cut, elements, found, made, same⟩
    exact ⟨elements, ⟨cut, found, made⟩, same⟩
  · rintro ⟨elements, ⟨cut, found, made⟩, same⟩
    exact ⟨cut, elements, found, made, same⟩

theorem compileBody_eq_ok_iff {body : List Token} {matcher : Matcher} :
    compileBody functions body = .ok matcher ↔
      ∃ matchers, BodyAs functions body matchers ∧ .choiceOf matchers = matcher := by
  rw [compileBody_eq]
  exact Result.map_eq_ok_iff

theorem compileBody_eq_ok_iff_of_unmarked {sequence : List Token} {matcher : Matcher}
    (unmarked : ∀ token ∈ sequence, token.isNamed Body.choiceMarker = false) :
    compileBody functions sequence = .ok matcher ↔
      ∃ elements, SequenceAs functions sequence elements ∧ .sequenceOf elements = matcher := by
  rw [← sequenceMatcher_eq_ok_iff_sequenceAs, compileBody_eq, bodyMatcher,
    Body.alternatives_of_unmarked unmarked, Result.map_eq_ok_iff]
  constructor
  · rintro ⟨matchers, made, same⟩
    obtain ⟨first, others, found, none, shape⟩ := Result.mapM_cons_eq_ok_iff.mp made
    cases none
    subst shape same
    exact found
  · intro found
    exact ⟨[matcher], Result.mapM_eq_ok_iff.mpr (.cons found .nil), rfl⟩

theorem SequenceAs.append {before after : List Token}
    {elements others : List (Matcher × Option String)}
    (first : SequenceAs functions before elements) (second : SequenceAs functions after others) :
    SequenceAs functions (before ++ after) (elements ++ others) := by
  obtain ⟨cut, found, made⟩ := first
  obtain ⟨cutAfter, foundAfter, madeAfter⟩ := second
  exact ⟨cut ++ cutAfter, Body.elements_append found foundAfter,
    Result.mapM_append_eq_ok_iff.mpr ⟨_, _, made, madeAfter, rfl⟩⟩

theorem sequenceAs_vector {items : List Token} {matcher : Matcher}
    (made : compileBody functions items = .ok matcher) :
    SequenceAs functions [.vector items] [(matcher, none)] := by
  refine ⟨_, Body.elements_vector items, Result.mapM_eq_ok_iff.mpr (.cons ?_ .nil)⟩
  have meaning : Atom.ofToken? functions (.vector items) = some (.group items) := rfl
  have form : compileForm functions [.vector items] = .ok matcher :=
    (compileForm_singleton meaning).trans made
  exact Result.map_eq_ok_iff.mpr ⟨matcher, form, rfl⟩

theorem bodyAs_choice_iff {before after : List Token} {matchers : List Matcher} :
    BodyAs functions (before ++ .symbol Body.choiceMarker :: after) matchers ↔
      ∃ first second, BodyAs functions before first ∧ BodyAs functions after second ∧
        matchers = first ++ second := by
  unfold BodyAs
  rw [Body.alternatives_append_marker]
  exact Result.mapM_append_eq_ok_iff

theorem length_pos_of_bodyAs {body : List Token} {matchers : List Matcher}
    (made : BodyAs functions body matchers) : 0 < matchers.length := by
  obtain ⟨first, others, found⟩ := Body.exists_alternatives body
  rw [← (Result.mapM_eq_ok_iff.mp made).length_eq, found]
  exact Nat.succ_pos _

theorem bodyAs_vector {items : List Token} {matcher : Matcher}
    (made : compileBody functions items = .ok matcher) :
    BodyAs functions [.vector items] [matcher] := by
  have sequence := sequenceMatcher_eq_ok_iff_sequenceAs.mpr ⟨_, sequenceAs_vector made, rfl⟩
  unfold BodyAs
  rw [Body.alternatives_of_unmarked (List.forall_mem_singleton.mpr rfl)]
  exact Result.mapM_eq_ok_iff.mpr (.cons sequence .nil)

theorem compileBody_brackets {before inner after : List Token}
    (unmarked : ∀ token ∈ before ++ inner ++ after, token.isNamed Body.choiceMarker = false)
    (compiled : ∀ part ∈ [before, inner, after], ∃ matcher, compileBody functions part = .ok matcher) :
    ∃ elements inside others,
      compileBody functions (before ++ .vector inner :: after) =
        .ok (.sequenceOf (elements ++ (.sequenceOf inside, none) :: others)) ∧
      compileBody functions (before ++ inner ++ after) =
        .ok (.sequenceOf (elements ++ inside ++ others)) := by
  simp only [List.forall_mem_cons] at compiled
  obtain ⟨⟨_, madeBefore⟩, ⟨_, madeInner⟩, ⟨_, madeAfter⟩, _⟩ := compiled
  obtain ⟨plainFront, plainAfter⟩ := List.forall_mem_append.mp unmarked
  obtain ⟨plainBefore, plainInner⟩ := List.forall_mem_append.mp plainFront
  obtain ⟨elements, front, _⟩ := (compileBody_eq_ok_iff_of_unmarked plainBefore).mp madeBefore
  obtain ⟨inside, group, same⟩ := (compileBody_eq_ok_iff_of_unmarked plainInner).mp madeInner
  obtain ⟨others, behind, _⟩ := (compileBody_eq_ok_iff_of_unmarked plainAfter).mp madeAfter
  subst same
  have plain : ∀ token ∈ before ++ .vector inner :: after,
      token.isNamed Body.choiceMarker = false :=
    List.forall_mem_append.mpr ⟨plainBefore, List.forall_mem_cons.mpr ⟨rfl, plainAfter⟩⟩
  exact ⟨elements, inside, others,
    (compileBody_eq_ok_iff_of_unmarked plain).mpr
      ⟨_, front.append ((sequenceAs_vector madeInner).append behind), rfl⟩,
    (compileBody_eq_ok_iff_of_unmarked unmarked).mpr
      ⟨_, (front.append group).append behind, rfl⟩⟩

theorem compileBody_choice_brackets {first second third last : List Token}
    (compiled : ∀ part ∈ [first, second, third, last],
      ∃ matcher, compileBody functions part = .ok matcher) :
    ∃ firsts inside lasts,
      compileBody functions (first ++ .symbol "/" ::
          .vector (second ++ .symbol "/" :: third) :: .symbol "/" :: last) =
        .ok (.choice (firsts ++ .choice inside :: lasts)) ∧
      compileBody functions (first ++ .symbol "/" ::
          (second ++ .symbol "/" :: (third ++ .symbol "/" :: last))) =
        .ok (.choice (firsts ++ inside ++ lasts)) := by
  simp only [List.forall_mem_cons, compileBody_eq_ok_iff] at compiled
  obtain ⟨⟨_, firsts, asFirst, _⟩, ⟨_, seconds, asSecond, _⟩, ⟨_, thirds, asThird, _⟩,
    ⟨_, lasts, asLast, _⟩, _⟩ := compiled
  have some := length_pos_of_bodyAs asFirst
  have more := length_pos_of_bodyAs asSecond
  have others := length_pos_of_bodyAs asThird
  have group : compileBody functions (second ++ .symbol "/" :: third) =
      .ok (.choice (seconds ++ thirds)) := by
    refine compileBody_eq_ok_iff.mpr ⟨_, bodyAs_choice_iff.mpr ⟨_, _, asSecond, asThird, rfl⟩, ?_⟩
    exact Matcher.choiceOf_eq_choice (by rw [List.length_append]; omega)
  refine ⟨firsts, seconds ++ thirds, lasts, ?_, ?_⟩
  · have rest := bodyAs_choice_iff.mpr ⟨_, _, bodyAs_vector group, asLast, rfl⟩
    refine compileBody_eq_ok_iff.mpr ⟨_, bodyAs_choice_iff.mpr ⟨_, _, asFirst, rest, rfl⟩, ?_⟩
    apply Matcher.choiceOf_eq_choice
    simp only [List.length_append, List.length_cons]
    omega
  · have rest := bodyAs_choice_iff.mpr ⟨_, _, asThird, asLast, rfl⟩
    have most := bodyAs_choice_iff.mpr ⟨_, _, asSecond, rest, rfl⟩
    refine compileBody_eq_ok_iff.mpr ⟨_, bodyAs_choice_iff.mpr ⟨_, _, asFirst, most, rfl⟩, ?_⟩
    rw [← List.append_assoc seconds, ← List.append_assoc firsts]
    apply Matcher.choiceOf_eq_choice
    simp only [List.length_append]
    omega

end Compilation

structure Success.Same (found other : Success) : Prop where
  bindings : found.bindings = other.bindings
  consumed : found.consumed = other.consumed

/-- Successes with the same bindings, the first of them cut off where the input ends. -/
structure Success.CutOff (input : List Token) (found other : Success) : Prop where
  bindings : found.bindings = other.bindings
  consumed : found.consumed = other.consumed ∨
    found.consumed = input.length ∧ input.length < other.consumed

namespace Success

theorem cutOff_refl (input : List Token) (found : Success) : found.CutOff input found :=
  ⟨rfl, .inl rfl⟩

theorem cutOff_front (input : List Token) (found : Success) :
    (front input (min found.consumed input.length) found.bindings).CutOff input found := by
  refine ⟨rfl, ?_⟩
  by_cases within : found.consumed ≤ input.length
  · exact .inl (Nat.min_eq_left within)
  · have beyond := Nat.lt_of_not_le within
    exact .inr ⟨Nat.min_eq_right (Nat.le_of_lt beyond), beyond⟩

theorem CutOff.same {input : List Token} {found other : Success} (cut : found.CutOff input other)
    (within : other.consumed ≤ input.length) : found.Same other := by
  refine ⟨cut.bindings, ?_⟩
  rcases cut.consumed with same | ⟨_, beyond⟩
  · exact same
  · omega

end Success

namespace Registry

variable {registry : Registry} {matcher other middle : Matcher}

/-- Wherever one of the matchers comes to an end, so does the other, and to one of the same kind. -/
def RunsAlike (registry : Registry) (related : List Token → Success → Success → Prop)
    (matcher other : Matcher) : Prop :=
  ∀ input bindings,
    (∀ outcome, registry.ComesTo matcher input bindings outcome →
      ∃ second, registry.ComesTo other input bindings second ∧
        outcome.Alike (related input) second) ∧
    ∀ second, registry.ComesTo other input bindings second →
      ∃ outcome, registry.ComesTo matcher input bindings outcome ∧
        outcome.Alike (related input) second

def RunsSame (registry : Registry) (matcher other : Matcher) : Prop :=
  ∀ input bindings outcome, registry.ComesTo matcher input bindings outcome ↔
    registry.ComesTo other input bindings outcome

/-- The first matcher runs a group one level below itself, the second one the parts of the group in its
stead, as the group would at the same level. Then more levels only bring them closer together. -/
theorem runsSame_of_group (group : Matcher) (around : Nat → Step → Step)
    (monotone : ∀ {level higher step otherStep}, level ≤ higher → step.Approximates otherStep →
      (around level step).Approximates (around higher otherStep))
    (bracketed : ∀ level, registry.run (level + 1) matcher = around level (registry.run level group))
    (flat : ∀ level,
      registry.run (level + 1) other = around level (registry.run (level + 1) group)) :
    registry.RunsSame matcher other := by
  have forward : ∀ level, (registry.run level matcher).Approximates (registry.run level other) := by
    rintro (_ | level)
    · exact Step.unfinished_approximates _
    · rw [bracketed, flat]
      exact monotone (Nat.le_refl level) (approximates_run_succ level group)
  have backward : ∀ level,
      (registry.run level other).Approximates (registry.run (level + 1) matcher) := by
    rintro (_ | level)
    · exact Step.unfinished_approximates _
    · rw [bracketed, flat]
      exact monotone (Nat.le_succ level) (Step.approximates_refl _)
  intro input bindings outcome
  constructor
  · rintro ⟨finished, level, same⟩
    have reached := (forward level input bindings).eq (same ▸ finished)
    exact ⟨finished, level, reached.symm.trans same⟩
  · rintro ⟨finished, level, same⟩
    have reached := (backward level input bindings).eq (same ▸ finished)
    exact ⟨finished, level + 1, reached.symm.trans same⟩

theorem runsSame_sequence_group (before inner after : List (Matcher × Option String)) :
    registry.RunsSame (.sequence (before ++ (.sequence inner, none) :: after))
      (.sequence (before ++ inner ++ after)) := by
  refine runsSame_of_group (.sequence inner) (fun level step =>
    .sequence (registry.stepsAt level before ++ (step, none) :: registry.stepsAt level after)) ?_ ?_ ?_
  · intro level higher step otherStep enough close
    have more := approximates_stepsAt (@approximates_run registry _ _ enough)
    exact Step.approximates_sequence (List.rel_append (more before) (.cons ⟨close, rfl⟩ (more after)))
  · intro level
    rw [run_sequence]
    simp only [stepsAt, List.map_append, List.map_cons]
  · intro level
    rw [run_sequence, run_sequence, Step.sequence_group]
    simp only [stepsAt, List.map_append]

theorem runsSame_choice_group (before inner after : List Matcher) :
    registry.RunsSame (.choice (before ++ .choice inner :: after))
      (.choice (before ++ inner ++ after)) := by
  refine runsSame_of_group (.choice inner) (fun level step =>
    .choice (before.map (registry.run level) ++ step :: after.map (registry.run level))) ?_ ?_ ?_
  · intro level higher step otherStep enough close
    have more := approximates_alternatives (@approximates_run registry _ _ enough)
    exact Step.approximates_choice (List.rel_append (more before) (.cons close (more after)))
  · intro level
    rw [run_choice]
    simp only [List.map_append, List.map_cons]
  · intro level
    rw [run_choice, run_choice, Step.choice_group]
    simp only [List.map_append]

theorem runsAlike_refl (matcher : Matcher) : registry.RunsAlike Success.CutOff matcher matcher := by
  intro input bindings
  have same : ∀ outcome : Outcome Success, outcome ≠ .unfinished →
      outcome.Alike (Success.CutOff input) outcome := by
    rintro (_ | _ | found) finished
    · exact absurd rfl finished
    · exact .failed
    · exact .succeeded (found.cutOff_refl input)
  exact ⟨fun outcome ends => ⟨outcome, ends, same outcome ends.1⟩,
    fun outcome ends => ⟨outcome, ends, same outcome ends.1⟩⟩

theorem RunsSame.runsAlike {related : List Token → Success → Success → Prop}
    (same : registry.RunsSame matcher middle) (alike : registry.RunsAlike related middle other) :
    registry.RunsAlike related matcher other := by
  intro input bindings
  obtain ⟨forward, backward⟩ := alike input bindings
  constructor
  · intro outcome ends
    exact forward outcome ((same input bindings outcome).mp ends)
  · intro second ends
    obtain ⟨outcome, reached, both⟩ := backward second ends
    exact ⟨outcome, (same input bindings outcome).mpr reached, both⟩

theorem runsAlike_single (matcher : Matcher) :
    registry.RunsAlike Success.CutOff (.sequence [(matcher, none)]) matcher := by
  intro input bindings
  have once : ∀ level, registry.run (level + 1) (.sequence [(matcher, none)]) input bindings =
      (registry.run level matcher input bindings).bind fun found =>
        .succeeded (.front input (min found.consumed input.length) found.bindings) :=
    fun level => Step.sequence_single _ input bindings
  constructor
  · rintro outcome ⟨finished, level, ended⟩
    cases level with
    | zero => exact absurd ended.symm finished
    | succ level =>
        rw [once] at ended
        subst ended
        cases reached : registry.run level matcher input bindings with
        | unfinished =>
            rw [reached] at finished
            exact absurd rfl finished
        | failed => exact ⟨.failed, ⟨nofun, level, reached⟩, .failed⟩
        | succeeded found =>
            exact ⟨.succeeded found, ⟨nofun, level, reached⟩, .succeeded (found.cutOff_front input)⟩
  · rintro second ⟨finished, level, ended⟩
    have reached := once level
    rw [ended] at reached
    cases second with
    | unfinished => exact absurd rfl finished
    | failed => exact ⟨.failed, ⟨nofun, level + 1, reached⟩, .failed⟩
    | succeeded found =>
        exact ⟨.succeeded _, ⟨nofun, level + 1, reached⟩, .succeeded (found.cutOff_front input)⟩

theorem runsAlike_sequenceOf (elements : List (Matcher × Option String)) :
    registry.RunsAlike Success.CutOff (.sequence elements) (.sequenceOf elements) := by
  unfold Matcher.sequenceOf
  split
  · exact runsAlike_single _
  · exact runsAlike_refl _

theorem runsAlike_group (before inner after : List (Matcher × Option String)) :
    registry.RunsAlike Success.CutOff (.sequenceOf (before ++ (.sequenceOf inner, none) :: after))
      (.sequenceOf (before ++ inner ++ after)) := by
  by_cases alone : before = [] ∧ after = []
  · -- A body in brackets as a whole is compiled as that body.
    obtain ⟨front, behind⟩ := alone
    subst front behind
    rw [List.nil_append, List.append_nil]
    exact runsAlike_refl _
  · have several : Matcher.sequenceOf (before ++ (.sequenceOf inner, none) :: after) =
        .sequence (before ++ (.sequenceOf inner, none) :: after) := by
      apply Matcher.sequenceOf_eq_sequence
      intro single
      rw [List.length_append, List.length_cons] at single
      exact alone ⟨List.eq_nil_of_length_eq_zero (by omega), List.eq_nil_of_length_eq_zero (by omega)⟩
    have dissolved : registry.RunsSame (.sequence (before ++ (.sequenceOf inner, none) :: after))
        (.sequence (before ++ inner ++ after)) := by
      unfold Matcher.sequenceOf
      split
      · rw [List.append_assoc]
        exact fun _ _ _ => Iff.rfl
      · exact runsSame_sequence_group before inner after
    rw [several]
    exact dissolved.runsAlike (runsAlike_sequenceOf _)

/-- No rule ever reports more tokens than there are. -/
def StaysWithin (registry : Registry) : Prop :=
  ∀ name level, (registry.run level (.rule name)).StaysWithin

theorem Honest.staysWithin (honest : registry.Honest) : registry.StaysWithin :=
  fun name level _ _ _ succeeded => (sound_rule honest level name _ _ _ succeeded).within

theorem StaysWithin.run (rules : registry.StaysWithin) (level : Nat) :
    ∀ matcher, matcher.Plain → (registry.run level matcher).StaysWithin := by
  induction level with
  | zero =>
      intro matcher _ input bindings found succeeded
      cases succeeded
  | succ level ih =>
      intro matcher plain
      cases matcher with
      | literal expected => exact (Step.sound_one _).staysWithin
      | tokenIf name test => exact (Step.sound_one _).staysWithin
      | endOfInput => exact (Step.sound_lookahead _).staysWithin
      | rule name => exact rules name (level + 1)
      | sequence elements => exact Step.staysWithin_sequence _
      | choice alternatives =>
          apply Step.staysWithin_choice
          exact List.forall_mem_map.mpr fun alternative member =>
            ih alternative (plain.part (.alternative member .whole))
      | repetition quantifier inner => exact Step.staysWithin_repetition _ _ _
      | negation inner => exact (Step.sound_negation _).staysWithin
      | predicate call => exact (Step.sound_lookahead _).staysWithin
      | text content => exact (Step.sound_text _).staysWithin
      | compiler kind recognizer => exact (plain _ .whole).elim
      | claim count => exact (plain _ .whole).elim

theorem RunsAlike.same (alike : registry.RunsAlike Success.CutOff matcher other)
    (rules : registry.StaysWithin) (plain : other.Plain) :
    registry.RunsAlike (fun _ => Success.Same) matcher other := by
  intro input bindings
  obtain ⟨forward, backward⟩ := alike input bindings
  have within : ∀ outcome second : Outcome Success, registry.ComesTo other input bindings second →
      outcome.Alike (Success.CutOff input) second → outcome.Alike Success.Same second := by
    rintro outcome second ⟨_, level, ended⟩ both
    cases both with
    | unfinished => exact .unfinished
    | failed => exact .failed
    | succeeded cut => exact .succeeded (cut.same (rules.run level other plain _ _ _ ended))
  constructor
  · intro outcome ends
    obtain ⟨second, reached, both⟩ := forward outcome ends
    exact ⟨second, reached, within outcome second reached both⟩
  · intro second ends
    obtain ⟨outcome, reached, both⟩ := backward second ends
    exact ⟨outcome, reached, within outcome second ends both⟩

open Compilation in
/-- Brackets around a part of a sequence, or around neighbouring alternatives of a body, change nothing
but where a rule is cut off that reports more tokens than there are. No rule of a registry that is
built from core rules, literals and definitions does so. -/
theorem runsAlike_of_brackets (registry : Registry) :
    (∀ before inner after : List Token,
      (∀ token ∈ before ++ inner ++ after, token.isNamed Body.choiceMarker = false) →
      (∀ part ∈ [before, inner, after], ∃ matcher, compileBody registry.functions part = .ok matcher) →
      ∃ bracketed flat,
        compileBody registry.functions (before ++ .vector inner :: after) = .ok bracketed ∧
        compileBody registry.functions (before ++ inner ++ after) = .ok flat ∧
        registry.RunsAlike Success.CutOff bracketed flat ∧
        (registry.StaysWithin → registry.RunsAlike (fun _ => Success.Same) bracketed flat)) ∧
    ∀ first second third last : List Token,
      (∀ part ∈ [first, second, third, last],
        ∃ matcher, compileBody registry.functions part = .ok matcher) →
      ∃ bracketed flat,
        compileBody registry.functions (first ++ .symbol "/" ::
          .vector (second ++ .symbol "/" :: third) :: .symbol "/" :: last) = .ok bracketed ∧
        compileBody registry.functions (first ++ .symbol "/" ::
          (second ++ .symbol "/" :: (third ++ .symbol "/" :: last))) = .ok flat ∧
        registry.RunsSame bracketed flat := by
  constructor
  · intro before inner after unmarked compiled
    obtain ⟨elements, inside, others, bracketed, flat⟩ := compileBody_brackets unmarked compiled
    have alike := @runsAlike_group registry elements inside others
    exact ⟨_, _, bracketed, flat, alike, fun rules => alike.same rules (plain_of_compileBody flat)⟩
  · intro first second third last compiled
    obtain ⟨firsts, inside, lasts, bracketed, flat⟩ := compileBody_choice_brackets compiled
    exact ⟨_, _, bracketed, flat, runsSame_choice_group firsts inside lasts⟩

/-- A name in brackets behind a number, and two of four alternatives in brackets. -/
theorem runsAlike_of_brackets_number : ∃ (registry : Registry) (bracketed flat : Matcher)
    (bracketedChoice flatChoice : Matcher), registry.StaysWithin ∧
      compileBody registry.functions
        [.symbol "number", .vector [.symbol "symbol", .symbol "=>", .symbol "name"]] =
          .ok bracketed ∧
      compileBody registry.functions
        [.symbol "number", .symbol "symbol", .symbol "=>", .symbol "name"] = .ok flat ∧
      registry.RunsAlike (fun _ => Success.Same) bracketed flat ∧
      compileBody registry.functions
        [.integer 1, .symbol "/", .vector [.text "a", .symbol "/", .symbol "symbol"], .symbol "/"] =
          .ok bracketedChoice ∧
      compileBody registry.functions
        [.integer 1, .symbol "/", .text "a", .symbol "/", .symbol "symbol", .symbol "/"] =
          .ok flatChoice ∧
      registry.RunsSame bracketedChoice flatChoice := by
  have computed : (match Session.registryOf [] with
      | .ok registry =>
          [[], [.symbol "number"], [.symbol "symbol", .symbol "=>", .symbol "name"], [.integer 1],
            [.text "a"], [.symbol "symbol"]].all fun part =>
              (compileBody registry.functions part).toOption.any fun _ => true
      | .error _ => false) = true := by
    rw [Builder.registryOf_eq]
    decide +kernel
  split at computed
  next registry opened =>
    obtain ⟨builder, described, _, built⟩ := Builder.exists_of_registryOf opened
    have honest : registry.Honest := honest_of_build
      (described.definitions.imp fun recipe => Or.inr (a := recipe.IsLiteral)) built
    have rules := honest.staysWithin
    have compiles : ∀ {part : List Token},
        (compileBody registry.functions part).toOption.any (fun _ => true) = true →
          ∃ matcher, compileBody registry.functions part = .ok matcher := by
      intro part made
      obtain ⟨matcher, found, _⟩ := Result.exists_of_any made
      exact ⟨matcher, found⟩
    simp only [List.all_cons, Bool.and_eq_true] at computed
    obtain ⟨nothing, number, named, one, letter, symbol, _⟩ := computed
    obtain ⟨bracketed, flat, made, madeFlat, _, same⟩ := (runsAlike_of_brackets registry).1
      [.symbol "number"] [.symbol "symbol", .symbol "=>", .symbol "name"] [] (by decide)
      (List.forall_mem_cons.mpr ⟨compiles number, List.forall_mem_cons.mpr ⟨compiles named,
        List.forall_mem_singleton.mpr (compiles nothing)⟩⟩)
    obtain ⟨bracketedChoice, flatChoice, madeChoice, madeFlatChoice, alike⟩ :=
      (runsAlike_of_brackets registry).2 [.integer 1] [.text "a"] [.symbol "symbol"] []
      (List.forall_mem_cons.mpr ⟨compiles one, List.forall_mem_cons.mpr ⟨compiles letter,
        List.forall_mem_cons.mpr ⟨compiles symbol, List.forall_mem_singleton.mpr (compiles nothing)⟩⟩⟩)
    exact ⟨registry, bracketed, flat, bracketedChoice, flatChoice, rules, made, madeFlat,
      same rules, madeChoice, madeFlatChoice, alike⟩
  next => cases computed

/-- A rule that reports five tokens where there are two is a body of its own, and with an empty group
behind it the first of two elements, which is cut off. -/
theorem not_runsAlike_same_of_brackets :
    let rule : Matcher := .claim 5
    let registry : Registry := ⟨.ofList [("r", rule)], .standard⟩
    let bracketed : Matcher := .sequence [(.rule "r", none), (.sequence [], none)]
    let flat : Matcher := .rule "r"
    let input : List Token := [.integer 1, .integer 2]
    (∃ builder, Builder.start.register "r" (.ready rule) = .ok builder ∧ builder.build = .ok registry) ∧
    (∀ part ∈ [[.symbol "r"], [], []],
      ∃ matcher, compileBody registry.functions part = .ok matcher) ∧
    compileBody registry.functions ([.symbol "r"] ++ .vector [] :: []) = .ok bracketed ∧
    compileBody registry.functions ([.symbol "r"] ++ [] ++ []) = .ok flat ∧
    registry.matchFront bracketed input ∅ = .succeeded ⟨.tokens input, ∅, 2⟩ ∧
    registry.matchFront flat input ∅ = .succeeded ⟨.tokens [], ∅, 5⟩ ∧
    ¬ registry.RunsAlike (fun _ => Success.Same) bracketed flat := by
  intro rule registry bracketed flat input
  have cut : registry.matchFront bracketed input ∅ = .succeeded ⟨.tokens input, ∅, 2⟩ := by
    with_unfolding_all rfl
  have whole : registry.matchFront flat input ∅ = .succeeded ⟨.tokens [], ∅, 5⟩ := by
    with_unfolding_all rfl
  refine ⟨⟨_, rfl, by with_unfolding_all rfl⟩, ?_, by with_unfolding_all rfl, by with_unfolding_all rfl,
    cut, whole, ?_⟩
  · exact List.forall_mem_cons.mpr ⟨⟨flat, by with_unfolding_all rfl⟩, List.forall_mem_cons.mpr
      ⟨⟨.sequence [], by with_unfolding_all rfl⟩, List.forall_mem_singleton.mpr
        ⟨.sequence [], by with_unfolding_all rfl⟩⟩⟩
  · intro alike
    have cutOff : registry.ComesTo bracketed input ∅ (.succeeded ⟨.tokens input, ∅, 2⟩) :=
      comesTo_iff.mpr ⟨nofun, cut⟩
    obtain ⟨second, ends, both⟩ := (alike input ∅).1 _ cutOff
    rw [comesTo_iff, whole] at ends
    rw [← ends.2] at both
    cases both with
    | succeeded same => exact absurd same.consumed (by decide)

end Registry

end TokenGrammar
