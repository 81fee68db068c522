import TokenGrammar.Proofs.Matcher.Outcome
import TokenGrammar.Proofs.Bindings
/-!
Two runs of a step from different bindings. A step reads only some names if bindings that agree on them
make it fail or succeed alike, with the same tokens; every name then has the same value behind both runs,
or behind each of them still the value from before it. All ways of putting steps together keep this.
-/

namespace TokenGrammar

namespace Bindings

def AgreeOn (watched : String → Prop) (bindings other : Bindings) : Prop :=
  ∀ name, watched name → bindings.get? name = other.get? name

/-- Two runs, each from its bindings before to those behind it, leave every name with the same value or
with its own old one. -/
def MoveAlike (before otherBefore behind otherBehind : Bindings) : Prop :=
  ∀ name, behind.get? name = otherBehind.get? name ∨
    behind.get? name = before.get? name ∧ otherBehind.get? name = otherBefore.get? name

theorem moveAlike_refl (bindings other : Bindings) : MoveAlike bindings other bindings other :=
  fun _ => .inr ⟨rfl, rfl⟩

section Moving

variable {before otherBefore middle otherMiddle behind otherBehind : Bindings}

theorem MoveAlike.trans (first : MoveAlike before otherBefore middle otherMiddle)
    (second : MoveAlike middle otherMiddle behind otherBehind) :
    MoveAlike before otherBefore behind otherBehind := by
  intro name
  rcases second name with same | ⟨kept, otherKept⟩
  · exact .inl same
  · rw [kept, otherKept]
    exact first name

theorem MoveAlike.bind (moved : MoveAlike before otherBefore behind otherBehind) (name : String)
    (value : List Token) :
    MoveAlike before otherBefore (behind.bind name value) (otherBehind.bind name value) := by
  intro found
  rw [get?_bind, get?_bind]
  by_cases same : found = name
  · left
    rw [if_pos same, if_pos same]
  · rw [if_neg same, if_neg same]
    exact moved found

theorem AgreeOn.move {watched : String → Prop} (agree : before.AgreeOn watched otherBefore)
    (moved : MoveAlike before otherBefore behind otherBehind) :
    behind.AgreeOn watched otherBehind := by
  intro name inside
  rcases moved name with same | ⟨kept, otherKept⟩
  · exact same
  · rw [kept, otherKept]
    exact agree name inside

theorem AgreeOn.imp {watched fewer : String → Prop} (agree : before.AgreeOn watched otherBefore)
    (inside : ∀ name, fewer name → watched name) : before.AgreeOn fewer otherBefore :=
  fun name own => agree name (inside name own)

end Moving

end Bindings

namespace Outcome

variable {α β : Type}

inductive Alike (related : α → α → Prop) : Outcome α → Outcome α → Prop
  | unfinished : Alike related .unfinished .unfinished
  | failed : Alike related .failed .failed
  | succeeded {value other : α} (both : related value other) :
      Alike related (.succeeded value) (.succeeded other)

theorem Alike.bind {related : α → α → Prop} {relatedNext : β → β → Prop}
    {outcome other : Outcome α} {next otherNext : α → Outcome β} (alike : outcome.Alike related other)
    (later : ∀ value otherValue, related value otherValue →
      (next value).Alike relatedNext (otherNext otherValue)) :
    (outcome.bind next).Alike relatedNext (other.bind otherNext) := by
  cases alike with
  | unfinished => exact .unfinished
  | failed => exact .failed
  | succeeded both => exact later _ _ both

theorem Alike.imp {related weaker : α → α → Prop} {outcome other : Outcome α}
    (alike : outcome.Alike related other)
    (weaken : ∀ value otherValue, related value otherValue → weaker value otherValue) :
    outcome.Alike weaker other := by
  cases alike with
  | unfinished => exact .unfinished
  | failed => exact .failed
  | succeeded both => exact .succeeded (weaken _ _ both)

end Outcome

/-- Successes that differ in nothing but bindings from before. -/
structure Success.Alike (before otherBefore : Bindings) (found other : Success) : Prop where
  matched : found.matched = other.matched
  consumed : found.consumed = other.consumed
  bindings : Bindings.MoveAlike before otherBefore found.bindings other.bindings

theorem Success.alike_front {before otherBefore behind otherBehind : Bindings}
    (moved : Bindings.MoveAlike before otherBefore behind otherBehind) (input : List Token)
    (count : Nat) :
    Success.Alike before otherBefore (.front input count behind) (.front input count otherBehind) :=
  ⟨rfl, rfl, moved⟩

theorem Success.alike_empty (bindings other : Bindings) :
    Success.Alike bindings other (.empty bindings) (.empty other) :=
  ⟨rfl, rfl, Bindings.moveAlike_refl bindings other⟩

namespace Step

/-- The bindings of all names but the watched ones make no difference to the step. -/
def ReadsOnly (watched : String → Prop) (step : Step) : Prop :=
  ∀ input (bindings other : Bindings), bindings.AgreeOn watched other →
    (step input bindings).Alike (Success.Alike bindings other) (step input other)

variable {watched : String → Prop}

theorem ReadsOnly.imp {fewer : String → Prop} {step : Step} (reads : step.ReadsOnly fewer)
    (inside : ∀ name, fewer name → watched name) : step.ReadsOnly watched :=
  fun input bindings other agree => reads input bindings other (agree.imp inside)

theorem readsOnly_one (accepts : Token → Bool) : (one accepts).ReadsOnly watched := by
  intro input bindings other _
  unfold one
  split
  · split
    · exact .succeeded (Success.alike_front (Bindings.moveAlike_refl _ _) _ _)
    · exact .failed
  · exact .failed

theorem readsOnly_lookahead {holds : List Token → Bindings → Bool}
    (reads : ∀ input (bindings other : Bindings), bindings.AgreeOn watched other →
      holds input bindings = holds input other) :
    (lookahead holds).ReadsOnly watched := by
  intro input bindings other agree
  unfold lookahead
  rw [reads input bindings other agree]
  split
  · exact .succeeded (Success.alike_empty _ _)
  · exact .failed

theorem readsOnly_text (characters : List Char) : (text characters).ReadsOnly watched := by
  intro input bindings other _
  unfold text
  split
  · exact .succeeded (Success.alike_front (Bindings.moveAlike_refl _ _) _ _)
  · exact .failed

theorem alike_sequenceFrom {elements : List (Step × Option String)}
    (reads : ∀ element ∈ elements, element.1.ReadsOnly watched) {input : List Token}
    {before otherBefore : Bindings} (agree : before.AgreeOn watched otherBefore)
    {position : Nat} {bindings other : Bindings}
    (moved : Bindings.MoveAlike before otherBefore bindings other) :
    (sequenceFrom input elements position bindings).Alike (Success.Alike before otherBefore)
      (sequenceFrom input elements position other) := by
  induction elements generalizing position bindings other with
  | nil => exact .succeeded (Success.alike_front moved _ _)
  | cons element rest ih =>
      obtain ⟨step, name⟩ := element
      obtain ⟨first, others⟩ := List.forall_mem_cons.mp reads
      refine (first _ _ _ (agree.move moved)).bind fun found otherFound alike => ?_
      -- Both runs take the same tokens, and bind a name to them in both.
      have further := moved.trans alike.bindings
      dsimp only
      rw [alike.consumed]
      cases name with
      | none => exact ih others further
      | some name => exact ih others (further.bind name _)

theorem readsOnly_sequence {elements : List (Step × Option String)}
    (reads : ∀ element ∈ elements, element.1.ReadsOnly watched) :
    (sequence elements).ReadsOnly watched :=
  fun _ bindings other agree =>
    alike_sequenceFrom reads agree (Bindings.moveAlike_refl bindings other)

theorem readsOnly_choice {steps : List Step} (reads : ∀ step ∈ steps, step.ReadsOnly watched) :
    (choice steps).ReadsOnly watched := by
  induction steps with
  | nil =>
      intro input bindings other _
      exact .failed
  | cons step rest ih =>
      obtain ⟨first, others⟩ := List.forall_mem_cons.mp reads
      intro input bindings other agree
      have alike := first input bindings other agree
      unfold choice
      generalize step input bindings = outcome, step input other = otherOutcome at alike ⊢
      cases alike with
      | unfinished => exact .unfinished
      | failed => exact ih others input bindings other agree
      | succeeded both => exact .succeeded both

structure Progress.Alike (before otherBefore : Bindings) (progress other : Progress) : Prop where
  position : progress.position = other.position
  count : progress.count = other.count
  bindings : Bindings.MoveAlike before otherBefore progress.bindings other.bindings

theorem alike_repeatFrom {step : Step} (reads : step.ReadsOnly watched) {most : Option Nat}
    {input : List Token} {before otherBefore : Bindings}
    (agree : before.AgreeOn watched otherBefore) {budget : Nat} {progress other : Progress}
    (alike : progress.Alike before otherBefore other) :
    (repeatFrom step most input budget progress).Alike (Progress.Alike before otherBefore)
      (repeatFrom step most input budget other) := by
  induction budget generalizing progress other with
  | zero =>
      unfold repeatFrom
      rw [alike.count]
      split
      · exact .succeeded alike
      · exact .unfinished
  | succ budget ih =>
      unfold repeatFrom
      rw [alike.count, alike.position]
      split
      · exact .succeeded alike
      · have once := reads (input.drop other.position) progress.bindings other.bindings
          (agree.move alike.bindings)
        generalize step (input.drop other.position) progress.bindings = outcome,
          step (input.drop other.position) other.bindings = otherOutcome at once ⊢
        cases once with
        | unfinished => exact .unfinished
        | failed => exact .succeeded alike
        | succeeded both =>
            have further := alike.bindings.trans both.bindings
            dsimp only
            rw [both.consumed]
            split
            · exact .succeeded ⟨rfl, rfl, further⟩
            · exact ih ⟨rfl, rfl, further⟩

theorem readsOnly_repetition {step : Step} (reads : step.ReadsOnly watched)
    (quantifier : Quantifier) (budget : Nat) :
    (repetition quantifier budget step).ReadsOnly watched := by
  intro input bindings other agree
  have start : Progress.Alike bindings other ⟨0, 0, bindings⟩ ⟨0, 0, other⟩ :=
    ⟨rfl, rfl, Bindings.moveAlike_refl bindings other⟩
  refine (alike_repeatFrom reads agree start).bind fun final otherFinal alike => ?_
  rw [alike.count, alike.position]
  split
  · exact .succeeded (Success.alike_front alike.bindings _ _)
  · exact .failed

theorem readsOnly_negation {step : Step} (reads : step.ReadsOnly watched) :
    (negation step).ReadsOnly watched := by
  intro input bindings other agree
  have alike := reads input bindings other agree
  unfold negation
  generalize step input bindings = outcome, step input other = otherOutcome at alike ⊢
  cases alike with
  | unfinished => exact .unfinished
  | failed => exact .succeeded (Success.alike_empty _ _)
  | succeeded both => exact .failed

end Step

end TokenGrammar
