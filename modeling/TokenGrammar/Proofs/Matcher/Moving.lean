import TokenGrammar.Proofs.Matcher.Approximation
import TokenGrammar.Proofs.Matcher.Regrouping
/-!
Where steps lead. A step that succeeds without leaving its place has bound names to nothing, if it has
bound any, and a step that reports more tokens than there are has bound none. So a combination of steps asks
them only at places that can be reached from where it stands itself, and a better approximation of the steps
at those places makes a better approximation of the combination.
-/

namespace TokenGrammar

namespace Bindings

/-- Every name has kept its value or has been bound to nothing. -/
def Emptied (before after : Bindings) : Prop :=
  ∀ name, after.get? name = before.get? name ∨ after.get? name = some []

theorem emptied_refl (bindings : Bindings) : bindings.Emptied bindings := fun _ => .inl rfl

theorem Emptied.trans {first second third : Bindings} (left : first.Emptied second)
    (right : second.Emptied third) : first.Emptied third := by
  intro name
  rcases right name with kept | empty
  · rw [kept]
    exact left name
  · exact .inr empty

theorem Emptied.bind {before after : Bindings} (emptied : before.Emptied after) (name : String)
    {value : List Token} (empty : value = []) : before.Emptied (after.bind name value) := by
  intro other
  rw [get?_bind, empty]
  split
  · exact .inr rfl
  · exact emptied other

end Bindings

/-- The places that a run can come to: what is left of the input is lighter, or nothing was taken. -/
inductive Reaches (input : List Token) (bindings : Bindings) : List Token → Bindings → Prop
  | lighter {rest : List Token} {behind : Bindings}
      (light : Token.weightAll rest < Token.weightAll input) : Reaches input bindings rest behind
  | here {behind : Bindings} (emptied : bindings.Emptied behind) :
      Reaches input bindings input behind

section Places

variable {input rest last : List Token} {bindings behind final : Bindings}

theorem reaches_refl (input : List Token) (bindings : Bindings) :
    Reaches input bindings input bindings := .here bindings.emptied_refl

theorem Reaches.trans (first : Reaches input bindings rest behind)
    (second : Reaches rest behind last final) : Reaches input bindings last final := by
  cases first with
  | lighter light =>
      cases second with
      | lighter lighter => exact .lighter (Nat.lt_trans lighter light)
      | here => exact .lighter light
  | here emptied =>
      cases second with
      | lighter light => exact .lighter light
      | here more => exact .here (emptied.trans more)

theorem reaches_drop {count : Nat} (inside : count ≤ input.length)
    (stays : count = 0 → bindings.Emptied behind) :
    Reaches input bindings (input.drop count) behind := by
  rcases Nat.eq_zero_or_pos count with none | some
  · rw [none, List.drop_zero]
    exact .here (stays none)
  · exact .lighter (Token.weightAll_drop_lt some inside)

end Places

namespace Step

structure Moves (step : Step) : Prop where
  stays : ∀ input bindings found, step input bindings = .succeeded found →
    min found.consumed input.length = 0 → bindings.Emptied found.bindings
  beyond : ∀ input bindings found, step input bindings = .succeeded found →
    input.length < found.consumed → found.bindings = bindings

theorem moves_of_kept {step : Step}
    (kept : ∀ input bindings found, step input bindings = .succeeded found →
      found.bindings = bindings) : step.Moves := by
  refine ⟨fun input bindings found succeeded _ => ?_, fun input bindings found succeeded _ => ?_⟩
  · rw [kept input bindings found succeeded]
    exact bindings.emptied_refl
  · exact kept input bindings found succeeded

theorem moves_one (accepts : Token → Bool) : (one accepts).Moves := by
  refine moves_of_kept fun input bindings found succeeded => ?_
  unfold one at succeeded
  split at succeeded
  · split at succeeded
    · rw [← Outcome.succeeded.inj succeeded]
      rfl
    · cases succeeded
  · cases succeeded

theorem moves_lookahead (holds : List Token → Bindings → Bool) : (lookahead holds).Moves := by
  refine moves_of_kept fun input bindings found succeeded => ?_
  unfold lookahead at succeeded
  split at succeeded
  · rw [← Outcome.succeeded.inj succeeded]
    rfl
  · cases succeeded

theorem moves_text (characters : List Char) : (text characters).Moves := by
  refine moves_of_kept fun input bindings found succeeded => ?_
  unfold text at succeeded
  split at succeeded
  · rw [← Outcome.succeeded.inj succeeded]
    rfl
  · cases succeeded

theorem moves_negation (step : Step) : (negation step).Moves := by
  refine moves_of_kept fun input bindings found succeeded => ?_
  unfold negation at succeeded
  split at succeeded
  · cases succeeded
  · rw [← Outcome.succeeded.inj succeeded]
    rfl
  · cases succeeded

theorem moves_choice {steps : List Step} (moves : ∀ step ∈ steps, step.Moves) :
    (choice steps).Moves := by
  constructor
  · intro input bindings found succeeded
    obtain ⟨step, member, here⟩ := exists_mem_of_choice succeeded
    exact (moves step member).stays input bindings found here
  · intro input bindings found succeeded
    obtain ⟨step, member, here⟩ := exists_mem_of_choice succeeded
    exact (moves step member).beyond input bindings found here

theorem moves_of_front {step : Step}
    (front : ∀ input bindings found, step input bindings = .succeeded found →
      found.consumed ≤ input.length ∧ (found.consumed = 0 → bindings.Emptied found.bindings)) :
    step.Moves := by
  constructor
  · intro input bindings found succeeded none
    obtain ⟨within, stays⟩ := front input bindings found succeeded
    exact stays (Nat.min_eq_left within ▸ none)
  · intro input bindings found succeeded more
    exact absurd more (Nat.not_lt.mpr (front input bindings found succeeded).1)

theorem Moves.bindingsAs {step : Step} (moves : step.Moves) {left : List Token}
    {bindings : Bindings} {found : Success} (succeeded : step left bindings = .succeeded found)
    (name : Option String) (none : min found.consumed left.length = 0) :
    bindings.Emptied (found.bindingsAs name left) := by
  have stays := moves.stays left bindings found succeeded none
  cases name with
  | none => exact stays
  | some name => exact stays.bind name (by rw [none, List.take_zero])

theorem moves_sequence {elements : List (Step × Option String)}
    (moves : ∀ element ∈ elements, element.1.Moves) : (sequence elements).Moves := by
  refine moves_of_front fun input before found succeeded => ?_
  have within := (front_of_sequenceFrom (Nat.zero_le _) succeeded).1
  refine ⟨within, ?_⟩
  -- A sequence that has taken nothing in the end has taken nothing on the way.
  have along : ∀ position bindings, (position = 0 → before.Emptied bindings) →
      sequenceFrom input elements position bindings = .succeeded found →
        found.consumed = 0 → before.Emptied found.bindings := by
    clear succeeded within
    intro position bindings emptied succeeded none
    induction elements generalizing position bindings with
    | nil =>
        rw [← Outcome.succeeded.inj succeeded] at none ⊢
        exact emptied none
    | cons element rest ih =>
        obtain ⟨step, name⟩ := element
        obtain ⟨first, others⟩ := List.forall_mem_cons.mp moves
        rw [sequenceFrom_cons] at succeeded
        obtain ⟨taken, here, later⟩ := Outcome.bind_eq_succeeded_iff.mp succeeded
        refine ih others _ _ (fun still => ?_) later
        obtain ⟨start, nothing⟩ := Nat.add_eq_zero_iff.mp still
        exact (emptied start).trans (first.bindingsAs here name nothing)
  exact along 0 before (fun _ => before.emptied_refl) succeeded

theorem position_of_repeatFrom {step : Step} (moves : step.Moves) {most : Option Nat}
    {input : List Token} {before : Bindings} {budget : Nat} {progress final : Progress}
    (inside : progress.position ≤ input.length)
    (emptied : progress.position = 0 → before.Emptied progress.bindings)
    (succeeded : repeatFrom step most input budget progress = .succeeded final) :
    final.position ≤ input.length ∧ (final.position = 0 → before.Emptied final.bindings) := by
  refine @repeatFrom_keeps (fun progress => progress.position ≤ input.length ∧
    (progress.position = 0 → before.Emptied progress.bindings)) _ _ _ ?_ ?_ _ _ _
      ⟨inside, emptied⟩ succeeded
  · rintro reached found ⟨inside, emptied⟩ tried none
    have stays := moves.stays _ _ found tried (by rw [none, Nat.zero_min])
    exact ⟨inside, fun start => (emptied start).trans stays⟩
  · rintro reached found ⟨inside, emptied⟩ tried more
    refine ⟨Nat.min_le_right _ _, fun still => ?_⟩
    have stays := moves.stays _ _ found tried
    rw [List.length_drop] at stays
    dsimp only at still
    exact (emptied (by omega)).trans (stays (by omega))

theorem moves_repetition {step : Step} (moves : step.Moves) (quantifier : Quantifier)
    (budget : Nat) : (repetition quantifier budget step).Moves := by
  refine moves_of_front fun input bindings found succeeded => ?_
  obtain ⟨final, repeated, enough⟩ := Outcome.bind_eq_succeeded_iff.mp succeeded
  split at enough
  · rw [← Outcome.succeeded.inj enough]
    exact position_of_repeatFrom moves (Nat.zero_le _) (fun _ => bindings.emptied_refl) repeated
  · cases enough

def ApproximatesFrom (input : List Token) (bindings : Bindings) (step other : Step) : Prop :=
  ∀ rest behind, Reaches input bindings rest behind →
    (step rest behind).Approximates (other rest behind)

section Combinations

variable {input : List Token} {bindings : Bindings}

theorem ApproximatesFrom.here {step other : Step}
    (close : step.ApproximatesFrom input bindings other) :
    (step input bindings).Approximates (other input bindings) :=
  close input bindings (reaches_refl input bindings)

theorem approximates_sequence_at {elements others : List (Step × Option String)}
    (moves : ∀ element ∈ elements, element.1.Moves)
    (close : List.Forall₂ (fun element other =>
      element.1.ApproximatesFrom input bindings other.1 ∧ element.2 = other.2) elements others) :
    (sequence elements input bindings).Approximates (sequence others input bindings) := by
  have along : ∀ position behind, Reaches input bindings (input.drop position) behind →
      (sequenceFrom input elements position behind).Approximates
        (sequenceFrom input others position behind) := by
    induction close with
    | nil => exact fun _ _ _ => Outcome.approximates_refl _
    | @cons element other elements others first _ ih =>
        obtain ⟨step, name⟩ := element
        obtain ⟨otherStep, otherName⟩ := other
        obtain ⟨closeStep, same⟩ := first
        dsimp only at closeStep same
        subst same
        obtain ⟨own, ofRest⟩ := List.forall_mem_cons.mp moves
        intro position behind reached
        rw [sequenceFrom_cons, sequenceFrom_cons]
        refine (closeStep _ _ reached).bind_of_succeeded fun found succeeded => ih ofRest _ _ ?_
        rw [← List.drop_drop]
        exact reached.trans (reaches_drop (Nat.min_le_right _ _) (own.bindingsAs succeeded name))
  exact along 0 bindings (List.drop_zero ▸ reaches_refl input bindings)

/-- A repetition that goes on without leaving its place, and with the same bindings, does so for ever. -/
theorem repeatFrom_of_stuck {step : Step} {most : Option Nat} {position : Nat} {found : Success}
    (again : step (input.drop position) bindings = .succeeded found) (more : found.consumed ≠ 0)
    (still : min (position + found.consumed) input.length = position)
    (kept : found.bindings = bindings) (budget : Nat) : ∀ count,
    (∀ times ≥ count, most ≠ some times) →
      repeatFrom step most input budget ⟨position, count, bindings⟩ = .unfinished := by
  induction budget with
  | zero =>
      intro count endless
      rw [repeatFrom, if_neg (endless count (Nat.le_refl _))]
  | succ budget ih =>
      intro count endless
      rw [repeatFrom, if_neg (endless count (Nat.le_refl _))]
      dsimp only
      rw [again]
      dsimp only
      rw [if_neg more, still, kept]
      exact ih (count + 1) fun times later => endless times (Nat.le_of_succ_le later)

theorem approximates_repeatFrom_at {step other : Step} (moves : step.Moves)
    (close : step.ApproximatesFrom input bindings other) {most : Option Nat}
    (once : ∀ times, most = some times → times ≤ 1) {budget otherBudget : Nat} {progress : Progress}
    (inside : progress.position ≤ input.length)
    (reached : Reaches input bindings (input.drop progress.position) progress.bindings)
    (enough : input.length < otherBudget + progress.position) :
    (repeatFrom step most input budget progress).Approximates
      (repeatFrom other most input otherBudget progress) := by
  induction budget generalizing otherBudget progress with
  | zero =>
      by_cases done : most = some progress.count
      · cases otherBudget <;> simp [repeatFrom, done, Outcome.approximates_refl]
      · rw [repeatFrom, if_neg done]
        exact .inl rfl
  | succ budget ih =>
      obtain ⟨fewer, same⟩ := Nat.exists_eq_add_of_le' (show 1 ≤ otherBudget by omega)
      subst same
      unfold repeatFrom
      split
      · exact .inr rfl
      have tried := close _ _ reached
      cases outcome : step (input.drop progress.position) progress.bindings with
      | unfinished => exact .inl rfl
      | failed =>
          rw [← tried.eq (by simp [outcome]), outcome]
          exact .inr rfl
      | succeeded found =>
          rw [← tried.eq (by simp [outcome]), outcome]
          dsimp only
          split
          · exact .inr rfl
          next more =>
            have beyond := moves.beyond _ _ found outcome
            have stays := moves.stays _ _ found outcome
            rw [List.length_drop] at beyond stays
            by_cases further :
                progress.position < min (progress.position + found.consumed) input.length
            · refine ih (Nat.min_le_right _ _) ?_ (by dsimp only; omega)
              refine reached.trans ?_
              have places : input.drop (min (progress.position + found.consumed) input.length) =
                  (input.drop progress.position).drop
                    (min found.consumed (input.drop progress.position).length) := by
                rw [List.drop_drop, List.length_drop]
                congr 1
                omega
              rw [places]
              refine reaches_drop (Nat.min_le_right _ _) fun none => stays ?_
              rwa [List.length_drop] at none
            · -- At the end of the input nothing changes but the count, which may still be the last.
              have still : min (progress.position + found.consumed) input.length =
                  progress.position := by omega
              have kept := beyond (by omega)
              rw [still, kept]
              by_cases last : most = some (progress.count + 1)
              · cases budget <;> cases fewer <;> simp [repeatFrom, last, Outcome.approximates_refl]
              · refine .inl (repeatFrom_of_stuck outcome more still kept _ _ fun times later same => ?_)
                have atMost := once times same
                exact last (same.trans (congrArg some (by omega)))

theorem approximates_repetition_at {step other : Step} (moves : step.Moves)
    (close : step.ApproximatesFrom input bindings other) (quantifier : Quantifier)
    {budget otherBudget : Nat} (enough : input.length < otherBudget) :
    (repetition quantifier budget step input bindings).Approximates
      (repetition quantifier otherBudget other input bindings) := by
  have once : ∀ times, quantifier.most = some times → times ≤ 1 := by
    cases quantifier <;> simp [Quantifier.most]
  refine (approximates_repeatFrom_at moves close once (Nat.zero_le _) ?_ enough).bind fun _ => ?_
  · exact List.drop_zero ▸ reaches_refl input bindings
  · exact Outcome.approximates_refl _

end Combinations

end Step

end TokenGrammar
