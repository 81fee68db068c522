import Mathlib.Data.Finset.Card
import Mathlib.Logic.Relation
import TokenGrammar.Proofs.Registry.Adequacy
import TokenGrammar.Proofs.Registry.LeftRecursion
/-!
Ranked rules. If a rule calls only rules of lower rank before it takes a token, its runs come to their
end. A run goes down one level for each matcher inside another; it changes to a body of lower rank, or
behind a token, or into the items of a group. So the levels that it needs are a sum over the weight of
its input, the ranks that are left, and the matcher it has come to.
-/

namespace TokenGrammar

namespace Matcher

def RefersTo (matcher : Matcher) (name : String) : Prop :=
  Part (.rule name) matcher ∨
    Generation.Asks name ∧ ∃ kind recognizer, Part (.compiler kind recognizer) matcher

theorem RefersTo.of_part {part whole : Matcher} {name : String} (refers : part.RefersTo name)
    (inside : Part part whole) : whole.RefersTo name := by
  rcases refers with reference | ⟨asks, kind, recognizer, compiler⟩
  · exact .inl (reference.trans inside)
  · exact .inr ⟨asks, kind, recognizer, compiler.trans inside⟩

end Matcher

namespace Registry

/-- A set of rules that is closed under references, with ranks that fall along left calls. -/
structure Ranked (registry : Registry) (scope : String → Prop) (rank : String → Nat) : Prop where
  closed : ∀ caller body callee, scope caller → registry.lookup caller = some body →
    body.RefersTo callee → scope callee
  falls : ∀ caller callee, scope caller → registry.LeftCalls caller callee →
    registry.contains callee = true → rank callee < rank caller
  bounded : ∀ name, rank name ≤ registry.rules.size

/-- What a run at some place may still rely on: its matcher refers to rules of the set, and begins with
rules below a bound. -/
structure Fits (registry : Registry) (scope : String → Prop) (rank : String → Nat)
    (matcher : Matcher) (bound : Nat) : Prop where
  honest : matcher.Honest
  inside : ∀ name, matcher.RefersTo name → scope name
  below : ∀ name, registry.Begins matcher name → registry.contains name = true → rank name < bound

section Fitting

variable {registry : Registry} {scope : String → Prop} {rank : String → Nat} {bound : Nat}

theorem Ranked.fits_body (ranked : registry.Ranked scope rank) (honest : registry.Honest)
    {name : String} {body : Matcher} (known : registry.lookup name = some body)
    (own : scope name) : registry.Fits scope rank body (rank name) := by
  refine ⟨honest name body known, fun callee => ranked.closed name body callee own known, ?_⟩
  intro callee begins registered
  exact ranked.falls name callee own ⟨body, known, begins⟩ registered

theorem Fits.part {part whole : Matcher} (fits : registry.Fits scope rank whole bound)
    (inside : Matcher.Part part whole) {other : Nat}
    (below : ∀ name, registry.Begins part name → registry.contains name = true →
      rank name < other) : registry.Fits scope rank part other :=
  ⟨fits.honest.part inside, fun name refers => fits.inside name (refers.of_part inside), below⟩

theorem Fits.anywhere {part whole : Matcher} (fits : registry.Fits scope rank whole bound)
    (ranked : registry.Ranked scope rank) (inside : Matcher.Part part whole) :
    registry.Fits scope rank part (registry.rules.size + 1) :=
  fits.part inside fun name _ _ => Nat.lt_succ_of_le (ranked.bounded name)

end Fitting

section Ends

variable {registry : Registry} {scope : String → Prop} {rank : String → Nat} {depth level : Nat}
  {matcher : Matcher} {bound : Nat} {input : List Token}

structure Allowed (registry : Registry) (scope : String → Prop) (rank : String → Nat)
    (depth level : Nat) (matcher : Matcher) (bound : Nat) (input : List Token) : Prop where
  fits : registry.Fits scope rank matcher bound
  low : bound ≤ registry.rules.size + 1
  shallow : matcher.depth ≤ depth
  enough : registry.needed [] depth (Token.weightAll input) 0 bound matcher.depth ≤ level

theorem contains_of_lookup {name : String} {body : Matcher}
    (known : registry.lookup name = some body) : registry.contains name = true := by
  rw [contains, NameMap.contains]
  exact Option.isSome_of_eq_some known

theorem Allowed.here (allowed : registry.Allowed scope rank depth (level + 1) matcher bound input)
    {part : Matcher} (inside : Matcher.Part part matcher) (smaller : part.depth < matcher.depth)
    (below : ∀ name, registry.Begins part name → registry.Begins matcher name) :
    registry.Allowed scope rank depth level part bound input := by
  have fits := allowed.fits.part inside fun name begins => allowed.fits.below name (below name begins)
  have shallow := allowed.shallow
  have enough := allowed.enough
  refine ⟨fits, allowed.low, by omega, ?_⟩
  unfold needed at enough ⊢
  omega

theorem Allowed.behind (ranked : registry.Ranked scope rank)
    (allowed : registry.Allowed scope rank depth (level + 1) matcher bound input) {part : Matcher}
    (inside : Matcher.Part part matcher) (smaller : part.depth < matcher.depth) {count : Nat}
    (some : 0 < count) (within : count ≤ input.length) :
    registry.Allowed scope rank depth level part (registry.rules.size + 1) (input.drop count) := by
  -- One token less pays for all ranks, which are allowed again.
  have shallow : part.depth ≤ depth := Nat.le_of_lt (Nat.lt_of_lt_of_le smaller allowed.shallow)
  have lighter := @needed_lighter registry [] depth _ _ _ _ _ (Token.weightAll_drop_lt some within)
    (Nat.le_refl 0) (Nat.le_refl _) shallow
  have enough := allowed.enough
  refine ⟨allowed.fits.anywhere ranked inside, Nat.le_refl _, shallow, ?_⟩
  unfold needed at enough lighter ⊢
  omega

theorem Allowed.called (honest : registry.Honest) (ranked : registry.Ranked scope rank)
    (deep : registry.depth ≤ depth) {name : String} {body : Matcher}
    (allowed : registry.Allowed scope rank depth (level + 1) (.rule name) bound input)
    (known : registry.lookup name = some body) :
    registry.Allowed scope rank depth level body (rank name) input := by
  have own := allowed.fits.inside name (.inl .whole)
  have lower := allowed.fits.below name .rule (contains_of_lookup known)
  have low := allowed.low
  have shallow := Nat.le_trans (depth_le_of_lookup known) deep
  refine ⟨ranked.fits_body honest known own, by omega, shallow, ?_⟩
  exact Nat.le_of_succ_le_succ (Nat.le_trans (needed_fewer_rules lower shallow) allowed.enough)

theorem Allowed.asked (honest : registry.Honest) (ranked : registry.Ranked scope rank)
    (deep : registry.depth ≤ depth) {kind : FormKind} {recognizer body : Matcher} {name : String}
    {form : List Token}
    (allowed : registry.Allowed scope rank depth (level + 1) (.compiler kind recognizer) bound input)
    (asks : Generation.Asks name) (known : registry.lookup name = some body)
    (light : Token.weightAll form < Token.weightAll input) :
    registry.Allowed scope rank depth level body (rank name) form := by
  have own := allowed.fits.inside name (.inr ⟨asks, kind, recognizer, .whole⟩)
  have low := Nat.le_succ_of_le (ranked.bounded name)
  have shallow := Nat.le_trans (depth_le_of_lookup known) deep
  refine ⟨ranked.fits_body honest known own, low, shallow, ?_⟩
  have levels := @needed_lighter registry [] depth _ _ _ _ _ light (Nat.le_refl 0) low shallow
  have positive := Matcher.one_le_depth recognizer
  have enough := allowed.enough
  rw [needed, Matcher.depth] at enough
  omega

section Inside

-- The runs of one level below are known to come to their end.
variable (each : ∀ {matcher : Matcher} {bound : Nat} {input : List Token},
  registry.Allowed scope rank depth level matcher bound input →
    (registry.run level matcher).Ends input)

include each

theorem ends_run_sequence (honest : registry.Honest) (ranked : registry.Ranked scope rank)
    {elements : List (Matcher × Option String)}
    (allowed : registry.Allowed scope rank depth (level + 1) (.sequence elements) bound input) :
    (registry.run (level + 1) (.sequence elements)).Ends input := by
  have smaller : ∀ element ∈ elements, element.1.depth < (Matcher.sequence elements).depth := by
    intro element member
    exact Nat.lt_succ_of_le (Matcher.depth_le_depthOfElements member)
  refine Step.ends_sequence (sound_elements honest level allowed.fits.honest) ?_ ?_
  · intro before step after split nothing
    obtain ⟨earlier, others, same, front, back⟩ := List.map_eq_append_iff.mp split
    obtain ⟨element, later, same', this, _⟩ := List.map_eq_cons_iff.mp back
    subst same same' front this
    refine each (allowed.here (.element (by simp) .whole) (smaller _ (by simp)) ?_)
    intro name begins
    refine .element ?_ begins
    intro other member
    refine mayTakeNothing_of_run honest level other.1 ?_ (nothing _ (List.mem_map_of_mem member))
    exact allowed.fits.honest.part (.element (List.mem_append_left _ member) .whole)
  · intro step member count some within
    obtain ⟨element, listed, same⟩ := List.mem_map.mp member
    rw [← same]
    exact each (allowed.behind ranked (.element listed .whole) (smaller element listed) some within)

theorem ends_run_repetition (honest : registry.Honest) (ranked : registry.Ranked scope rank)
    {quantifier : Quantifier} {inner : Matcher}
    (allowed : registry.Allowed scope rank depth (level + 1) (.repetition quantifier inner) bound
      input) :
    (registry.run (level + 1) (.repetition quantifier inner)).Ends input := by
  have own := allowed.fits.honest.part (.repeated .whole)
  refine Step.ends_repetition (sound_run honest level inner own) ?_ quantifier ?_
  · intro count within
    rcases Nat.eq_zero_or_pos count with none | some
    · rw [none, List.drop_zero]
      exact each (allowed.here (.repeated .whole) (Nat.lt_succ_self _) fun _ => .repeated)
    · exact each (allowed.behind ranked (.repeated .whole) (Nat.lt_succ_self _) some within)
  · have tokens := Token.length_le_weightAll input
    have levels := @le_mul_room registry (Token.weightAll input) [] depth
    have positive := Matcher.one_le_depth inner
    have enough := allowed.enough
    rw [needed, Matcher.depth] at enough
    omega

theorem ends_run_compiler (honest : registry.Honest) (ranked : registry.Ranked scope rank)
    (deep : registry.depth ≤ depth) {kind : FormKind} {recognizer : Matcher}
    (allowed : registry.Allowed scope rank depth (level + 1) (.compiler kind recognizer) bound
      input) :
    (registry.run (level + 1) (.compiler kind recognizer)).Ends input := by
  intro bindings
  rw [run_compiler]
  have first := each (allowed.here (.recognizer .whole) (Nat.lt_succ_self _) fun _ => .recognizer)
  refine Outcome.bind_ne_unfinished (first bindings) fun recognized _ => ?_
  have front := Token.weightAll_le_of_sublist (List.take_sublist recognized.consumed input)
  refine Outcome.bind_ne_unfinished (Generation.ends_formMatcher ?_) (by simp)
  intro limit lighter name form asks light
  unfold invokeAt
  split
  next body known =>
      have lower := Nat.lt_of_le_of_lt light (Nat.lt_of_lt_of_le lighter front)
      exact each (allowed.asked honest ranked deep asks known lower) ∅
  next => simp

end Inside

theorem ends_run (honest : registry.Honest) (ranked : registry.Ranked scope rank)
    (deep : registry.depth ≤ depth)
    (allowed : registry.Allowed scope rank depth level matcher bound input) :
    (registry.run level matcher).Ends input := by
  -- On the levels: a rule may lead to a larger matcher, but never to one that needs as many levels.
  induction level generalizing matcher bound input with
  | zero =>
      have positive := Matcher.one_le_depth matcher
      have enough := allowed.enough
      unfold needed at enough
      omega
  | succ level ih =>
      cases matcher with
      | literal expected => exact Step.ends_one _ _
      | tokenIf name test => exact Step.ends_one _ _
      | endOfInput => exact Step.ends_lookahead _ _
      | rule name =>
          intro bindings
          rw [run_rule]
          split
          next body known => exact ih (allowed.called honest ranked deep known) bindings
          next => simp
      | sequence elements => exact ends_run_sequence ih honest ranked allowed
      | choice alternatives =>
          refine Step.ends_choice (List.forall_mem_map.mpr fun alternative listed => ?_)
          exact ih (allowed.here (.alternative listed .whole)
            (Nat.lt_succ_of_le (Matcher.depth_le_depthOfAll listed)) fun _ => .alternative listed)
      | repetition quantifier inner => exact ends_run_repetition ih honest ranked allowed
      | negation inner =>
          have denied := allowed.here (.negated .whole) (Nat.lt_succ_self _) fun _ => .negated
          exact Step.ends_negation (ih denied)
      | predicate call => exact Step.ends_lookahead _ _
      | text content => exact Step.ends_text _ _
      | compiler kind recognizer => exact ends_run_compiler ih honest ranked deep allowed
      | claim count => exact (allowed.fits.honest _ .whole).elim

/-- Matching by a rule comes to its end: the levels that are granted are enough, and so are more. -/
def Returns (registry : Registry) (name : String) : Prop :=
  ∀ input bindings, registry.invoke name input bindings ≠ .unfinished ∧
    ∃ enough, ∀ level, enough ≤ level →
      registry.run level (.rule name) input bindings = registry.invoke name input bindings

theorem returns_of_ranked (honest : registry.Honest) (ranked : registry.Ranked scope rank)
    {name : String} (own : scope name) : registry.Returns name := by
  intro input bindings
  unfold invoke
  cases known : registry.lookup name with
  | none =>
      refine ⟨by simp, 1, ?_⟩
      intro level enough
      obtain ⟨fewer, same⟩ := Nat.exists_eq_add_of_le' enough
      rw [same, run_rule, known]
  | some body =>
      have fits := (ranked.fits_body honest known own).anywhere ranked .whole
      have allowed : registry.Allowed scope rank registry.depth
          (registry.needed [] registry.depth (Token.weightAll input) 0 (registry.rules.size + 1)
            body.depth) body (registry.rules.size + 1) input :=
        ⟨fits, Nat.le_refl _, depth_le_of_lookup known, Nat.le_refl _⟩
      obtain ⟨enough, ends⟩ : ∃ enough, registry.run enough body input bindings ≠ .unfinished :=
        ⟨_, ends_run honest ranked (Nat.le_refl registry.depth) allowed bindings⟩
      dsimp only
      rw [(comesTo_iff.mp ⟨ends, enough, rfl⟩).2]
      refine ⟨ends, enough + 1, ?_⟩
      intro level more
      obtain ⟨fewer, same⟩ := Nat.exists_eq_add_of_le' (Nat.le_of_add_left_le more)
      rw [same] at more ⊢
      rw [run_rule_of_lookup known]
      exact run_eq_of_le (Nat.le_of_succ_le_succ more) ends

end Ends

section Acyclic

variable {registry : Registry}

open Classical in
noncomputable def reach (registry : Registry) (name : String) : Nat :=
  (registry.rules.names.toFinset.filter (Relation.TransGen registry.LeftCalls name)).card

theorem ranked_of_acyclic (acyclic : ∀ name, ¬ Relation.TransGen registry.LeftCalls name name) :
    registry.Ranked (fun _ => True) registry.reach := by
  classical
  refine ⟨fun _ _ _ _ _ _ => trivial, ?_, ?_⟩
  · intro caller callee _ calls registered
    -- The caller comes to all that the callee comes to, and to the callee besides.
    apply Finset.card_lt_card
    refine Finset.ssubset_iff_of_subset ?_ |>.mpr ⟨callee, ?_, ?_⟩
    · intro other member
      rw [Finset.mem_filter] at member ⊢
      exact ⟨member.1, .head calls member.2⟩
    · rw [Finset.mem_filter, List.mem_toFinset]
      exact ⟨NameMap.contains_iff.mp registered, .single calls⟩
    · intro member
      exact acyclic callee (Finset.mem_filter.mp member).2
  · intro name
    refine Nat.le_trans (Finset.card_filter_le _ _) (Nat.le_trans (List.toFinset_card_le _) ?_)
    rw [NameMap.names, List.length_map]
    exact Nat.le_refl _

end Acyclic

end Registry

end TokenGrammar
