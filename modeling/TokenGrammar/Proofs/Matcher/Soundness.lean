import TokenGrammar.Proofs.Matcher.Outcome
import TokenGrammar.Proofs.Bindings
/-!
Sound successes: what a step reports about its input is true of the input. A success takes no more
tokens than there are, gives back exactly those that it takes, keeps the names that were bound before it
in their places, and binds a name to nothing but a stretch of the input. Every way of putting steps
together keeps steps sound.
-/

namespace TokenGrammar

namespace Bindings

/-- The bindings `after` come from those `before` by binding names to stretches of an input. -/
structure Extends (input : List Token) (before after : Bindings) : Prop where
  names : before.names <+: after.names
  values : ∀ name value, after.get? name = some value →
    before.get? name = some value ∨ value <:+: input

theorem extends_refl (input : List Token) (bindings : Bindings) :
    bindings.Extends input bindings :=
  ⟨List.prefix_refl _, fun _ _ found => .inl found⟩

theorem Extends.trans {input : List Token} {first second third : Bindings}
    (left : first.Extends input second) (right : second.Extends input third) :
    first.Extends input third := by
  refine ⟨left.names.trans right.names, ?_⟩
  intro name value found
  rcases right.values name value found with old | inside
  · exact left.values name value old
  · exact .inr inside

theorem Extends.of_infix {stretch input : List Token} {before after : Bindings}
    (step : before.Extends stretch after) (inside : stretch <:+: input) :
    before.Extends input after := by
  refine ⟨step.names, ?_⟩
  intro name value found
  rcases step.values name value found with old | within
  · exact .inl old
  · exact .inr (within.trans inside)

theorem extends_bind (bindings : Bindings) (name : String) {value input : List Token}
    (inside : value <:+: input) : bindings.Extends input (bindings.bind name value) := by
  refine ⟨names_prefix_names_bind _ _ _, ?_⟩
  intro other found same
  rw [get?_bind] at same
  split at same
  · rw [← Option.some.inj same]
    exact .inr inside
  · exact .inl same

end Bindings

structure Success.Sound (input : List Token) (bindings : Bindings) (found : Success) : Prop where
  within : found.consumed ≤ input.length
  front : ∀ tokens, found.matched = .tokens tokens → tokens = input.take found.consumed
  bound : bindings.Extends input found.bindings

namespace Success

theorem sound_front {input : List Token} {count : Nat} {before after : Bindings}
    (within : count ≤ input.length) (bound : before.Extends input after) :
    (Success.front input count after).Sound input before := by
  refine ⟨within, ?_, bound⟩
  intro tokens same
  exact (Matched.tokens.inj same).symm

theorem sound_empty (input : List Token) (bindings : Bindings) :
    (Success.empty bindings).Sound input bindings :=
  @sound_front input 0 bindings bindings (Nat.zero_le _) (Bindings.extends_refl _ _)

end Success

namespace Step

def Sound (step : Step) : Prop :=
  ∀ input bindings found, step input bindings = .succeeded found → found.Sound input bindings

theorem sound_one (accepts : Token → Bool) : (one accepts).Sound := by
  intro input bindings found succeeded
  unfold one at succeeded
  cases input with
  | nil => cases succeeded
  | cons token rest =>
      dsimp only at succeeded
      split at succeeded
      · rw [← Outcome.succeeded.inj succeeded]
        exact Success.sound_front (by simp) (Bindings.extends_refl _ _)
      · cases succeeded

theorem sound_lookahead (holds : List Token → Bindings → Bool) : (lookahead holds).Sound := by
  intro input bindings found succeeded
  unfold lookahead at succeeded
  split at succeeded
  · rw [← Outcome.succeeded.inj succeeded]
    exact Success.sound_empty _ _
  · cases succeeded

theorem length_le_of_startsWith {characters : List Char} {input : List Token}
    (starts : startsWith characters input = true) : characters.length ≤ input.length := by
  fun_induction startsWith characters input with
  | case1 => simp
  | case2 expected rest found tokens ih =>
      rw [Bool.and_eq_true] at starts
      exact Nat.succ_le_succ (ih starts.2)
  | case3 => cases starts

theorem sound_text (characters : List Char) : (text characters).Sound := by
  intro input bindings found succeeded
  unfold text at succeeded
  split at succeeded
  next starts =>
    rw [← Outcome.succeeded.inj succeeded]
    exact Success.sound_front (length_le_of_startsWith starts) (Bindings.extends_refl _ _)
  next => cases succeeded

theorem front_of_sequenceFrom {input : List Token} {elements : List (Step × Option String)}
    {position : Nat} {bindings : Bindings} {found : Success} (inside : position ≤ input.length)
    (succeeded : sequenceFrom input elements position bindings = .succeeded found) :
    found.consumed ≤ input.length ∧ found = .front input found.consumed found.bindings := by
  induction elements generalizing position bindings with
  | nil =>
      rw [← Outcome.succeeded.inj succeeded]
      exact ⟨inside, rfl⟩
  | cons element rest ih =>
      obtain ⟨step, name⟩ := element
      obtain ⟨taken, _, later⟩ := Outcome.bind_eq_succeeded_iff.mp succeeded
      refine ih ?_ later
      simp only [List.length_drop]
      omega

theorem extends_of_sequenceFrom {input : List Token} {elements : List (Step × Option String)}
    (sound : ∀ element ∈ elements, element.1.Sound) {position : Nat} {bindings : Bindings}
    {found : Success}
    (succeeded : sequenceFrom input elements position bindings = .succeeded found) :
    bindings.Extends input found.bindings := by
  induction elements generalizing position bindings with
  | nil =>
      rw [← Outcome.succeeded.inj succeeded]
      exact Bindings.extends_refl _ _
  | cons element rest ih =>
      obtain ⟨step, name⟩ := element
      obtain ⟨taken, first, behind⟩ := Outcome.bind_eq_succeeded_iff.mp succeeded
      have later := ih (fun element member => sound element (by simp [member])) behind
      have left : input.drop position <:+: input := (List.drop_suffix _ _).isInfix
      have once := (sound _ List.mem_cons_self _ _ _ first).bound.of_infix left
      cases name with
      | none => exact once.trans later
      | some name =>
          have stretch := List.take_prefix (min taken.consumed (input.drop position).length)
            (input.drop position)
          have bind := Bindings.extends_bind taken.bindings name (stretch.isInfix.trans left)
          exact (once.trans bind).trans later

theorem sound_sequence {elements : List (Step × Option String)}
    (sound : ∀ element ∈ elements, element.1.Sound) : (sequence elements).Sound := by
  intro input bindings found succeeded
  obtain ⟨within, front⟩ := front_of_sequenceFrom (Nat.zero_le _) succeeded
  have bound := extends_of_sequenceFrom sound succeeded
  rw [front]
  exact Success.sound_front within bound

theorem exists_mem_of_choice {steps : List Step} {input : List Token} {bindings : Bindings}
    {found : Success} (succeeded : choice steps input bindings = .succeeded found) :
    ∃ step ∈ steps, step input bindings = .succeeded found := by
  induction steps with
  | nil => cases succeeded
  | cons step rest ih =>
      unfold choice at succeeded
      split at succeeded
      · obtain ⟨other, member, here⟩ := ih succeeded
        exact ⟨other, List.mem_cons_of_mem _ member, here⟩
      · exact ⟨step, List.mem_cons_self, succeeded⟩

theorem sound_choice {steps : List Step} (sound : ∀ step ∈ steps, step.Sound) :
    (choice steps).Sound := by
  intro input bindings found succeeded
  obtain ⟨step, member, here⟩ := exists_mem_of_choice succeeded
  exact sound step member input bindings found here

theorem repeatFrom_keeps {kept : Progress → Prop} {step : Step} {most : Option Nat}
    {input : List Token}
    (stays : ∀ progress found, kept progress →
      step (input.drop progress.position) progress.bindings = .succeeded found →
        found.consumed = 0 → kept ⟨progress.position, progress.count + 1, found.bindings⟩)
    (moves : ∀ progress found, kept progress →
      step (input.drop progress.position) progress.bindings = .succeeded found →
        found.consumed ≠ 0 → kept ⟨min (progress.position + found.consumed) input.length,
          progress.count + 1, found.bindings⟩)
    {budget : Nat} {progress final : Progress} (start : kept progress)
    (ended : repeatFrom step most input budget progress = .succeeded final) : kept final := by
  induction budget generalizing progress with
  | zero =>
      unfold repeatFrom at ended
      split at ended
      · cases ended
        exact start
      · cases ended
  | succ budget ih =>
      unfold repeatFrom at ended
      split at ended
      · cases ended
        exact start
      · split at ended
        next => cases ended
        next =>
          cases ended
          exact start
        next found succeeded =>
          split at ended
          next none =>
            cases ended
            exact stays progress found start succeeded none
          next some => exact ih (moves progress found start succeeded some) ended

theorem position_le_of_repeatFrom {step : Step} {most : Option Nat} {input : List Token}
    {budget : Nat} {progress final : Progress} (inside : progress.position ≤ input.length)
    (ended : repeatFrom step most input budget progress = .succeeded final) :
    final.position ≤ input.length := by
  refine @repeatFrom_keeps (·.position ≤ input.length) _ _ _ ?_ ?_ _ _ _ inside ended
  · intro reached found inside _ _
    exact inside
  · intro reached found _ _ _
    exact Nat.min_le_right _ _

theorem extends_of_repeatFrom {step : Step} (sound : step.Sound) {most : Option Nat}
    {input : List Token} {budget : Nat} {progress final : Progress}
    (ended : repeatFrom step most input budget progress = .succeeded final) :
    progress.bindings.Extends input final.bindings := by
  have once : ∀ (reached : Progress) (found : Success),
      progress.bindings.Extends input reached.bindings →
      step (input.drop reached.position) reached.bindings = .succeeded found →
        progress.bindings.Extends input found.bindings := by
    intro reached found before succeeded
    have left : input.drop reached.position <:+: input := (List.drop_suffix _ _).isInfix
    exact before.trans ((sound _ _ _ succeeded).bound.of_infix left)
  refine @repeatFrom_keeps (progress.bindings.Extends input ·.bindings) _ _ _ ?_ ?_ _ _ _
    (Bindings.extends_refl _ _) ended
  · intro reached found before succeeded _
    exact once reached found before succeeded
  · intro reached found before succeeded _
    exact once reached found before succeeded

theorem sound_repetition {step : Step} (sound : step.Sound) (quantifier : Quantifier)
    (budget : Nat) : (repetition quantifier budget step).Sound := by
  intro input bindings found succeeded
  obtain ⟨final, ended, enough⟩ := Outcome.bind_eq_succeeded_iff.mp succeeded
  split at enough
  · rw [← Outcome.succeeded.inj enough]
    exact Success.sound_front (position_le_of_repeatFrom (Nat.zero_le _) ended)
      (extends_of_repeatFrom sound ended)
  · cases enough

theorem sound_negation (step : Step) : (negation step).Sound := by
  intro input bindings found succeeded
  unfold negation at succeeded
  split at succeeded
  · cases succeeded
  · rw [← Outcome.succeeded.inj succeeded]
    exact Success.sound_empty _ _
  · cases succeeded

end Step

end TokenGrammar
