import Mathlib.Data.Finset.Card
import TokenGrammar.Proofs.Matcher.Moving
import TokenGrammar.Proofs.Registry.Watching
/-!
The levels that are granted are enough: a run that comes to its end at any number of levels does so within
them. While a run takes no token it only binds names to nothing, and as long as no name that predicates read
is among them, a rule that is followed again at the same place is followed for ever. So the levels that a
run needs are a sum over the weight of its input, the names that may still be bound to nothing, the rules
that have not been followed, and the matcher that it has come to.
-/

namespace TokenGrammar

theorem Token.mem_symbols_of_mem_leaves {name : String} {token : Token}
    (occurs : Token.symbol name ∈ token.leaves) : name ∈ token.symbols := by
  have inItems : ∀ items : List Token, (∀ item ∈ items, Token.symbol name ∈ item.leaves →
      name ∈ item.symbols) → Token.symbol name ∈ Token.leavesAll items →
        name ∈ Token.symbolsOfAll items := by
    intro items each inside
    induction items with
    | nil => cases inside
    | cons item rest ih =>
        obtain ⟨first, others⟩ := List.forall_mem_cons.mp each
        rw [leavesAll, List.mem_append] at inside
        rw [symbolsOfAll, List.mem_append]
        exact inside.imp first (ih others)
  induction token using Token.induction with
  | atom token atomic =>
      rw [leaves_of_isAtomic atomic, List.mem_singleton] at occurs
      rw [← occurs, symbols]
      exact List.mem_singleton.mpr rfl
  | group bracket items ih =>
      rw [leaves] at occurs
      rw [symbols]
      exact inItems items ih occurs

namespace Matcher

theorem reads_subset_of_element {element : Matcher × Option String}
    {elements : List (Matcher × Option String)} (member : element ∈ elements) :
    element.1.reads ⊆ readsOfElements elements := by
  induction elements with
  | nil => cases member
  | cons first rest ih =>
      unfold readsOfElements
      rcases List.mem_cons.mp member with here | later
      · rw [here]
        exact List.subset_append_left _ _
      · exact List.Subset.trans (ih later) (List.subset_append_right _ _)

theorem reads_subset_of_alternative {alternative : Matcher} {alternatives : List Matcher}
    (member : alternative ∈ alternatives) : alternative.reads ⊆ readsOfAll alternatives := by
  induction alternatives with
  | nil => cases member
  | cons first rest ih =>
      unfold readsOfAll
      rcases List.mem_cons.mp member with here | later
      · rw [here]
        exact List.subset_append_left _ _
      · exact List.Subset.trans (ih later) (List.subset_append_right _ _)

theorem reads_subset_of_part {part whole : Matcher} (inside : Part part whole) :
    part.reads ⊆ whole.reads := by
  induction inside with
  | whole => exact List.Subset.refl _
  | element member _ ih => exact List.Subset.trans ih (reads_subset_of_element member)
  | alternative member _ ih => exact List.Subset.trans ih (reads_subset_of_alternative member)
  | repeated _ ih => exact ih
  | negated _ ih => exact ih
  | recognizer _ ih => exact ih

end Matcher

namespace Bindings

def isEmptied (bindings : Bindings) (name : String) : Bool :=
  match bindings.get? name with
  | some [] => true
  | _ => false

def openAmong (names : List String) (bindings : Bindings) : Nat :=
  names.countP fun name => !bindings.isEmptied name

theorem isEmptied_iff {bindings : Bindings} {name : String} :
    bindings.isEmptied name = true ↔ bindings.get? name = some [] := by
  unfold isEmptied
  split
  next same => simp [same]
  next other => simpa using other

theorem openAmong_le (names : List String) (bindings : Bindings) :
    bindings.openAmong names ≤ names.length := List.countP_le_length

theorem Emptied.openAmong_le {before after : Bindings} (emptied : before.Emptied after)
    (names : List String) : after.openAmong names ≤ before.openAmong names := by
  refine List.countP_mono_left fun name _ stillOpen => ?_
  rw [Bool.not_eq_true', Bool.eq_false_iff, ne_eq, isEmptied_iff] at stillOpen ⊢
  rcases emptied name with kept | empty
  · rwa [kept] at stillOpen
  · exact absurd empty stillOpen

theorem Emptied.openAmong_lt {before after : Bindings} (emptied : before.Emptied after)
    {names : List String} {name : String} (listed : name ∈ names)
    (changed : before.get? name ≠ after.get? name) :
    after.openAmong names < before.openAmong names := by
  obtain ⟨front, back, same⟩ := List.append_of_mem listed
  have closed : after.isEmptied name = true :=
    isEmptied_iff.mpr ((emptied name).resolve_left (Ne.symm changed))
  have wasOpen : before.isEmptied name = false := by
    rw [Bool.eq_false_iff, ne_eq, isEmptied_iff]
    exact fun empty => changed (empty.trans (isEmptied_iff.mp closed).symm)
  have inFront := emptied.openAmong_le front
  have inBack := emptied.openAmong_le back
  unfold openAmong at inFront inBack ⊢
  rw [same, List.countP_append, List.countP_append, List.countP_cons, List.countP_cons, closed, wasOpen]
  simp only [Bool.not_true, Bool.not_false, if_true, Bool.false_eq_true, if_false]
  omega

end Bindings

namespace Registry

variable {registry : Registry}

theorem moves_run (level : Nat) : ∀ matcher, (registry.run level matcher).Moves := by
  induction level with
  | zero => exact fun matcher => ⟨nofun, nofun⟩
  | succ level ih =>
      intro matcher
      cases matcher with
      | literal expected => exact Step.moves_one _
      | tokenIf name test => exact Step.moves_one _
      | endOfInput => exact Step.moves_lookahead _
      | rule name =>
          cases known : registry.lookup name with
          | none =>
              refine Step.moves_of_kept fun input bindings found succeeded => ?_
              rw [run_rule, known] at succeeded
              cases succeeded
          | some body =>
              have same : registry.run (level + 1) (.rule name) = registry.run level body := by
                funext input bindings
                exact run_rule_of_lookup known level input bindings
              exact same ▸ ih body
      | sequence elements =>
          exact Step.moves_sequence (forall_mem_stepsAt fun element _ => ih element.1)
      | choice alternatives =>
          exact Step.moves_choice (List.forall_mem_map.mpr fun alternative _ => ih alternative)
      | repetition quantifier inner => exact Step.moves_repetition (ih inner) quantifier level
      | negation inner => exact Step.moves_negation _
      | predicate call => exact Step.moves_lookahead _
      | text content => exact Step.moves_text _
      | compiler kind recognizer =>
          refine Step.moves_of_kept fun input bindings found succeeded => ?_
          rw [run_compiler] at succeeded
          obtain ⟨recognized, _, succeeded⟩ := Outcome.bind_eq_succeeded_iff.mp succeeded
          obtain ⟨generated, _, same⟩ := Outcome.bind_eq_succeeded_iff.mp succeeded
          rw [← Outcome.succeeded.inj same]
      | claim count =>
          refine Step.moves_of_kept fun input bindings found succeeded => ?_
          rw [← Outcome.succeeded.inj succeeded]

theorem reads_subset_of_lookup {name : String} {body : Matcher}
    (known : registry.lookup name = some body) :
    body.reads ⊆ Matcher.readsOfAll (registry.rules.entries.map Prod.snd) :=
  Matcher.reads_subset_of_alternative
    (List.mem_map_of_mem (f := Prod.snd) (NameMap.get?_eq_some_iff.mp known))

theorem mem_reads_of_watches {matcher : Matcher} {name : String}
    (watches : registry.Watches matcher name) : name ∈ registry.reads matcher := by
  induction watches with
  | predicate inside occurs =>
      exact List.mem_append_left _
        (Matcher.reads_subset_of_part inside (Token.mem_symbols_of_mem_leaves occurs))
  | rule inside known further ih =>
      refine List.mem_append_right _ ?_
      rcases List.mem_append.mp ih with own | other
      · exact reads_subset_of_lookup known own
      · exact other

section Granting

variable (registry : Registry) (names : List String) (depth : Nat)

def room : Nat := ((names.length + 1) * (registry.rules.size + 2)) * (depth + 3)

/-- How many levels a run needs while some names have not been bound to nothing and some rules have not
been followed. -/
def needed (weight stillOpen left inner : Nat) : Nat :=
  weight * registry.room names depth +
    (stillOpen * (registry.rules.size + 1) + left) * (depth + 1) + inner

/-- A run that is granted all the levels it may need, although it is cut off for some rules that have been
followed at its place. -/
structure Granted (level granted : Nat) (matcher : Matcher) (input : List Token)
    (bindings : Bindings) (followed : Finset String) : Prop where
  reads : matcher.reads ⊆ names
  shallow : matcher.depth ≤ depth
  known : followed ⊆ registry.rules.names.toFinset
  cut : ∀ name ∈ followed, registry.run level (.rule name) input bindings = .unfinished
  enough : registry.needed names depth (Token.weightAll input) (bindings.openAmong names)
    (registry.rules.size - followed.card) matcher.depth ≤ granted

end Granting

section Levels

variable {names : List String} {depth : Nat}

theorem room_pos (registry : Registry) (names : List String) (depth : Nat) :
    0 < registry.room names depth :=
  Nat.mul_pos (Nat.mul_pos (Nat.succ_pos _) (Nat.succ_pos _)) (Nat.succ_pos _)

theorem rounds_le_room {stillOpen left inner : Nat} (some : stillOpen ≤ names.length)
    (rules : left ≤ registry.rules.size + 1) (shallow : inner ≤ depth) :
    (stillOpen * (registry.rules.size + 1) + left) * (depth + 1) + inner ≤
      registry.room names depth := by
  have opens := Nat.mul_le_mul_right (registry.rules.size + 1) some
  have rounds : stillOpen * (registry.rules.size + 1) + left + 1 ≤
      (names.length + 1) * (registry.rules.size + 2) := by
    have spread : (names.length + 1) * (registry.rules.size + 2) =
        names.length * (registry.rules.size + 1) + names.length + (registry.rules.size + 2) := by
      rw [Nat.succ_mul, ← Nat.mul_succ]
    omega
  calc
    _ ≤ (stillOpen * (registry.rules.size + 1) + left) * (depth + 1) + (depth + 1) :=
      Nat.add_le_add_left (Nat.le_succ_of_le shallow) _
    _ = (stillOpen * (registry.rules.size + 1) + left + 1) * (depth + 1) := (Nat.succ_mul _ _).symm
    _ ≤ registry.room names depth := Nat.mul_le_mul rounds (Nat.add_le_add_left (by decide) _)

theorem needed_lighter {lighter weight stillOpen left inner : Nat} (light : lighter < weight)
    (some : stillOpen ≤ names.length) (rules : left ≤ registry.rules.size + 1)
    (shallow : inner ≤ depth) :
    registry.needed names depth lighter stillOpen left inner ≤
      weight * registry.room names depth := by
  have rounds := rounds_le_room some rules shallow
  have weights := Nat.mul_le_mul_right (registry.room names depth) light
  rw [Nat.succ_mul] at weights
  unfold needed
  omega

theorem needed_fewer_open {weight fewer stillOpen left other inner : Nat} (closed : fewer < stillOpen)
    (rules : left ≤ registry.rules.size) (shallow : inner ≤ depth) :
    registry.needed names depth weight fewer left inner + 1 ≤
      registry.needed names depth weight stillOpen other 1 := by
  have rounds : fewer * (registry.rules.size + 1) + left + 1 ≤
      stillOpen * (registry.rules.size + 1) := by
    have more := Nat.mul_le_mul_right (registry.rules.size + 1) closed
    rw [Nat.succ_mul] at more
    omega
  have levels := Nat.mul_le_mul_right (depth + 1) (Nat.le_trans rounds (Nat.le_add_right _ other))
  rw [Nat.succ_mul] at levels
  unfold needed
  omega

theorem needed_fewer_rules {weight stillOpen fewer left inner : Nat} (lower : fewer < left)
    (shallow : inner ≤ depth) :
    registry.needed names depth weight stillOpen fewer inner + 1 ≤
      registry.needed names depth weight stillOpen left 1 := by
  have levels := Nat.mul_le_mul_right (depth + 1)
    (Nat.add_le_add_left lower (stillOpen * (registry.rules.size + 1)))
  rw [Nat.add_succ, Nat.succ_mul] at levels
  unfold needed
  omega

theorem le_mul_room (weight : Nat) (names : List String) (depth : Nat) :
    weight ≤ weight * registry.room names depth :=
  Nat.le_mul_of_pos_right weight (room_pos registry names depth)

theorem needed_le_levels (matcher : Matcher) (input : List Token) (bindings : Bindings) :
    registry.needed (registry.reads matcher) (max registry.depth matcher.depth)
      (Token.weightAll input) (bindings.openAmong (registry.reads matcher)) registry.rules.size
        matcher.depth ≤ registry.levels matcher input := by
  have rounds := @rounds_le_room registry _ _ _ _ _ (bindings.openAmong_le (registry.reads matcher))
    (Nat.le_succ registry.rules.size) (Nat.le_max_right registry.depth matcher.depth)
  unfold needed levels
  rw [Nat.mul_assoc, Nat.add_mul _ 2]
  unfold room at rounds ⊢
  omega

end Levels

section Granted

variable {names : List String} {depth level granted : Nat} {matcher : Matcher} {input : List Token}
  {bindings : Bindings} {followed : Finset String}

theorem Granted.one_le (grants : registry.Granted names depth level granted matcher input bindings
    followed) : 1 ≤ granted := by
  have positive := Matcher.one_le_depth matcher
  have enough := grants.enough
  unfold needed at enough
  omega

theorem unfinished_of_le {fewer more : Nat} (enough : fewer ≤ more)
    (cut : registry.run more matcher input bindings = .unfinished) :
    registry.run fewer matcher input bindings = .unfinished :=
  (approximates_run enough matcher input bindings).elim id fun same => same.trans cut

theorem exists_lowest_level (ends : registry.run (level + 1) matcher input bindings ≠ .unfinished) :
    ∃ lowest ≤ level, registry.run lowest matcher input bindings = .unfinished ∧
      registry.run (lowest + 1) matcher input bindings ≠ .unfinished := by
  induction level with
  | zero => exact ⟨0, Nat.le_refl _, rfl, ends⟩
  | succ level ih =>
      by_cases cut : registry.run (level + 1) matcher input bindings = .unfinished
      · exact ⟨level + 1, Nat.le_refl _, cut, ends⟩
      · obtain ⟨lowest, within, still, later⟩ := ih cut
        exact ⟨lowest, Nat.le_succ_of_le within, still, later⟩

theorem depth_le_of_lookup {name : String} {body : Matcher}
    (known : registry.lookup name = some body) : body.depth ≤ registry.depth := by
  apply Matcher.depth_le_depthOfAll
  exact List.mem_map_of_mem (f := Prod.snd) (NameMap.get?_eq_some_iff.mp known)

theorem Granted.lower (grants : registry.Granted names depth level granted matcher input bindings
    followed) {fewer : Nat} (within : fewer ≤ level) :
    registry.Granted names depth fewer granted matcher input bindings followed :=
  ⟨grants.reads, grants.shallow, grants.known,
    fun name member => unfinished_of_le within (grants.cut name member), grants.enough⟩

theorem granted_lighter {part : Matcher} {rest : List Token} {behind : Bindings}
    (reads : part.reads ⊆ names) (shallow : part.depth ≤ depth)
    (light : Token.weightAll rest < Token.weightAll input)
    (enough : Token.weightAll input * registry.room names depth ≤ granted) :
    registry.Granted names depth level granted part rest behind ∅ := by
  refine ⟨reads, shallow, Finset.empty_subset _, nofun, ?_⟩
  exact Nat.le_trans
    (needed_lighter light (behind.openAmong_le names) (Nat.le_succ_of_le (Nat.sub_le _ _)) shallow)
    enough

variable (inRules : Matcher.readsOfAll (registry.rules.entries.map Prod.snd) ⊆ names)

include inRules

theorem cut_of_agree {behind : Bindings} {name : String}
    (agree : ∀ read ∈ names, bindings.get? read = behind.get? read)
    (cut : registry.run level (.rule name) input bindings = .unfinished) :
    registry.run level (.rule name) input behind = .unfinished := by
  have watched : bindings.AgreeOn (registry.Watches (.rule name)) behind := by
    intro read watches
    rcases List.mem_append.mp (mem_reads_of_watches watches) with own | other
    · cases own
    · exact agree read (inRules other)
  have alike := readsOnly_run level (.rule name) input bindings behind watched
  rw [cut] at alike
  generalize registry.run level (.rule name) input behind = outcome at alike ⊢
  cases alike
  rfl

theorem Granted.part (grants : registry.Granted names depth (level + 1) (granted + 1) matcher input
      bindings followed)
    {part : Matcher} (inside : Matcher.Part part matcher) (smaller : part.depth < matcher.depth)
    {rest : List Token} {behind : Bindings} (reached : Reaches input bindings rest behind) :
    ∃ others, registry.Granted names depth level granted part rest behind others := by
  have reads := List.Subset.trans (Matcher.reads_subset_of_part inside) grants.reads
  have shallow : part.depth ≤ depth := Nat.le_of_lt (Nat.lt_of_lt_of_le smaller grants.shallow)
  have positive := Matcher.one_le_depth matcher
  have enough := grants.enough
  cases reached with
  | lighter light =>
      refine ⟨∅, granted_lighter reads shallow light ?_⟩
      unfold needed at enough
      omega
  | here emptied =>
      by_cases agree : ∀ read ∈ names, bindings.get? read = behind.get? read
      · refine ⟨followed, reads, shallow, grants.known, fun name member => ?_, ?_⟩
        · exact cut_of_agree inRules agree (unfinished_of_le (Nat.le_succ _) (grants.cut name member))
        · have fewer := Nat.mul_le_mul_right (registry.rules.size + 1) (emptied.openAmong_le names)
          have levels := Nat.mul_le_mul_right (depth + 1) (Nat.add_le_add_right fewer
            (registry.rules.size - followed.card))
          unfold needed at enough ⊢
          omega
      · -- A name that is read has been bound to nothing, so every rule may be followed again.
        simp only [not_forall] at agree
        obtain ⟨read, listed, changed⟩ := agree
        have closed := emptied.openAmong_lt listed changed
        refine ⟨∅, reads, shallow, Finset.empty_subset _, nofun, ?_⟩
        have less := @needed_fewer_open registry names depth (Token.weightAll input) _ _
          (registry.rules.size - (∅ : Finset String).card) (registry.rules.size - followed.card) _
          closed (Nat.sub_le _ _) shallow
        unfold needed at enough less ⊢
        omega

theorem Granted.called (deep : registry.depth ≤ depth) {name : String} {body : Matcher}
    (grants : registry.Granted names depth (level + 1) (granted + 1) (.rule name) input bindings
      followed)
    (known : registry.lookup name = some body)
    (cut : registry.run level (.rule name) input bindings = .unfinished)
    (finished : registry.run (level + 1) (.rule name) input bindings ≠ .unfinished) :
    registry.Granted names depth level granted body input bindings (insert name followed) := by
  have new : name ∉ followed := fun member => finished (grants.cut name member)
  have registered : name ∈ registry.rules.names :=
    NameMap.contains_iff.mp (Option.isSome_of_eq_some known)
  have among : insert name followed ⊆ registry.rules.names.toFinset :=
    Finset.insert_subset (List.mem_toFinset.mpr registered) grants.known
  have count : followed.card + 1 ≤ registry.rules.size := by
    rw [← Finset.card_insert_of_notMem new]
    refine Nat.le_trans (Finset.card_le_card among) (Nat.le_trans (List.toFinset_card_le _) ?_)
    rw [NameMap.names, List.length_map]
    exact Nat.le_refl _
  have shallow := Nat.le_trans (depth_le_of_lookup known) deep
  refine ⟨List.Subset.trans (reads_subset_of_lookup known) inRules, shallow, among, ?_, ?_⟩
  · intro other member
    rcases Finset.mem_insert.mp member with here | before
    · rw [here, cut]
    · exact unfinished_of_le (Nat.le_succ _) (grants.cut other before)
  · rw [Finset.card_insert_of_notMem new]
    have fewer : registry.rules.size - (followed.card + 1) < registry.rules.size - followed.card := by
      omega
    exact Nat.le_of_succ_le_succ (Nat.le_trans (needed_fewer_rules fewer shallow) grants.enough)

end Granted

section Approximating

variable {names : List String} {depth : Nat}
  (deep : registry.depth ≤ depth)
  (inRules : Matcher.readsOfAll (registry.rules.entries.map Prod.snd) ⊆ names)

include deep inRules

/-- However high the level is that a run is given, the levels that it is granted come as far. -/
theorem approximates_run_of_granted (level : Nat) : ∀ {granted : Nat} {matcher : Matcher}
    {input : List Token} {bindings : Bindings} {followed : Finset String},
    registry.Granted names depth level granted matcher input bindings followed →
      (registry.run level matcher input bindings).Approximates
        (registry.run granted matcher input bindings) := by
  -- On the level, and for a rule from the lowest level at which it is not cut off.
  induction level using Nat.strong_induction_on with
  | _ level ih =>
  intro granted matcher input bindings followed grants
  cases level with
  | zero => exact .inl rfl
  | succ level =>
  obtain ⟨rest, same⟩ := Nat.exists_eq_add_of_le' grants.one_le
  subst same
  have inner : ∀ {part : Matcher}, Matcher.Part part matcher → part.depth < matcher.depth →
      Step.ApproximatesFrom input bindings (registry.run level part) (registry.run rest part) := by
    intro part inside smaller left behind reached
    obtain ⟨others, further⟩ := grants.part inRules inside smaller reached
    exact ih level (Nat.lt_succ_self level) further
  cases matcher with
  | literal expected => exact .inr rfl
  | tokenIf name test => exact .inr rfl
  | endOfInput => exact .inr rfl
  | rule name =>
      by_cases cut : registry.run (level + 1) (.rule name) input bindings = .unfinished
      · exact .inl cut
      cases known : registry.lookup name with
      | none => exact .inr (by rw [run_rule, run_rule, known])
      | some body =>
          obtain ⟨lowest, within, still, ends⟩ := exists_lowest_level cut
          have same := run_eq_of_le (Nat.succ_le_succ within) ends
          rw [same, run_rule_of_lookup known, run_rule_of_lookup known]
          exact ih lowest (Nat.lt_succ_of_le within)
            ((grants.lower (Nat.succ_le_succ within)).called inRules deep known still ends)
  | sequence elements =>
      have close : ∀ element ∈ elements, Step.ApproximatesFrom input bindings
          (registry.run level element.1) (registry.run rest element.1) := fun element member =>
        inner (.element member .whole) (Nat.lt_succ_of_le (Matcher.depth_le_depthOfElements member))
      refine Step.approximates_sequence_at (forall_mem_stepsAt fun element _ => moves_run level _) ?_
      rw [List.forall₂_map_left_iff, List.forall₂_map_right_iff, List.forall₂_same]
      exact fun element member => ⟨close element member, rfl⟩
  | choice alternatives =>
      refine Step.approximates_choice_at ?_
      rw [List.forall₂_map_left_iff, List.forall₂_map_right_iff, List.forall₂_same]
      intro alternative member
      exact (inner (.alternative member .whole)
        (Nat.lt_succ_of_le (Matcher.depth_le_depthOfAll member))).here
  | repetition quantifier repeated =>
      refine Step.approximates_repetition_at (moves_run level repeated)
        (inner (.repeated .whole) (Nat.lt_succ_self _)) quantifier ?_
      have tokens := Token.length_le_weightAll input
      have weights := @le_mul_room registry (Token.weightAll input) names depth
      have positive := Matcher.one_le_depth repeated
      have enough := grants.enough
      rw [needed, Matcher.depth] at enough
      omega
  | negation denied =>
      exact Step.approximates_negation_at (inner (.negated .whole) (Nat.lt_succ_self _)).here
  | predicate call => exact .inr rfl
  | text content => exact .inr rfl
  | compiler kind recognizer =>
      rw [run_compiler, run_compiler]
      have first := (inner (.recognizer .whole) (Nat.lt_succ_self _)).here
      refine first.bind fun recognized => ?_
      refine (Generation.approximates_formMatcher _ _ fun limit lighter name form _ light => ?_).bind
        fun generated => Outcome.approximates_refl _
      unfold invokeAt
      split
      next body known =>
        have front := Token.weightAll_le_of_sublist (List.take_sublist recognized.consumed input)
        refine ih level (Nat.lt_succ_self level)
          (granted_lighter (List.Subset.trans (reads_subset_of_lookup known) inRules)
            (Nat.le_trans (depth_le_of_lookup known) deep)
            (Nat.lt_of_le_of_lt light (Nat.lt_of_lt_of_le lighter front)) ?_)
        have positive := Matcher.one_le_depth recognizer
        have enough := grants.enough
        rw [needed, Matcher.depth] at enough
        omega
      next => exact Outcome.approximates_refl _
  | claim count => exact .inr rfl

end Approximating

section Matching

variable {other : Registry} {matcher otherMatcher : Matcher} {input : List Token}
  {bindings : Bindings} {outcome : Outcome Success}

theorem approximates_run_matchFront (level : Nat) (matcher : Matcher) :
    (registry.run level matcher).Approximates (registry.matchFront matcher) := by
  intro input bindings
  have granted : registry.Granted (registry.reads matcher) (max registry.depth matcher.depth)
      level (registry.levels matcher input) matcher input bindings ∅ :=
    ⟨List.subset_append_left _ _, Nat.le_max_right _ _, Finset.empty_subset _, nofun,
      needed_le_levels matcher input bindings⟩
  exact approximates_run_of_granted (Nat.le_max_left _ _) (List.subset_append_right _ _) level granted

/-- The end of a run that is given levels enough. -/
def ComesTo (registry : Registry) (matcher : Matcher) (input : List Token) (bindings : Bindings)
    (outcome : Outcome Success) : Prop :=
  outcome ≠ .unfinished ∧ ∃ level, registry.run level matcher input bindings = outcome

/-- Matching finds whatever a run comes to at any level, and is cut off only where every run is. -/
theorem comesTo_iff : registry.ComesTo matcher input bindings outcome ↔
    outcome ≠ .unfinished ∧ registry.matchFront matcher input bindings = outcome := by
  constructor
  · rintro ⟨ends, level, same⟩
    refine ⟨ends, ?_⟩
    rw [← same] at ends ⊢
    exact ((approximates_run_matchFront level matcher input bindings).eq ends).symm
  · rintro ⟨ends, same⟩
    exact ⟨ends, registry.levels matcher input, same⟩

theorem matchFront_eq_unfinished_iff : registry.matchFront matcher input bindings = .unfinished ↔
    ∀ level, registry.run level matcher input bindings = .unfinished := by
  constructor
  · intro cut level
    exact (approximates_run_matchFront level matcher input bindings).elim id fun same => same.trans cut
  · exact fun cut => cut (registry.levels matcher input)

theorem matchFront_congr
    (same : ∀ level, other.run level otherMatcher = registry.run level matcher) :
    other.matchFront otherMatcher = registry.matchFront matcher := by
  funext input bindings
  cases found : registry.matchFront matcher input bindings with
  | unfinished =>
      rw [matchFront_eq_unfinished_iff] at found ⊢
      exact fun level => (congrFun (congrFun (same level) input) bindings).trans (found level)
  | _ =>
      refine (comesTo_iff.mp ⟨by simp, registry.levels matcher input, ?_⟩).2
      rw [same]
      exact found

end Matching

end Registry

end TokenGrammar
