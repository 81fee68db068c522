import TokenGrammar.Proofs.Reading.Lines
import TokenGrammar.Proofs.Registry.Extension
import TokenGrammar.Proofs.Session.Loading
/-!
Loading several texts. Texts that are loaded in turn are loaded at once, as their definitions together;
the registry that these make depends on their order in nothing that a run can tell, for rules refer to each
other by name only. So two texts can be loaded in either order, or as one with a line feed between them.
-/

namespace TokenGrammar

namespace Session

section Permuted

variable {definitions others : List Definition} {registry other : Registry}

theorem perm_taken (perm : definitions.Perm others) : (taken definitions).Perm (taken others) :=
  (perm.map _).append_left _

theorem exists_registryOf_of_perm (perm : definitions.Perm others) :
    (∃ registry, registryOf definitions = .ok registry) ↔
      ∃ registry, registryOf others = .ok registry := by
  rw [exists_registryOf_iff, exists_registryOf_iff, (perm_taken perm).nodup_iff]
  simp only [perm.mem_iff]

theorem within_of_perm (perm : definitions.Perm others) (opened : registryOf definitions = .ok registry)
    (reordered : registryOf others = .ok other) : registry.Within other := by
  obtain ⟨builder, gathers, built⟩ := Builder.exists_gathers_of_registryOf opened
  obtain ⟨otherBuilder, otherGathers, otherBuilt⟩ := Builder.exists_gathers_of_registryOf reordered
  have kept : builder.factories ⊆ otherBuilder.factories := by
    rw [gathers.entries, otherGathers.entries]
    exact ((perm.map Builder.recipeOf).append_left _).subset
  exact Builder.within_of_build (otherGathers.functions.trans gathers.functions.symm) kept
    otherGathers.inStep built otherBuilt

theorem ruleNames_of_perm (perm : definitions.Perm others)
    (opened : registryOf definitions = .ok registry) (reordered : registryOf others = .ok other) :
    other.ruleNames = registry.ruleNames := by
  refine NameMap.sortedNames_eq_of_perm ?_
  rw [names_of_registryOf opened, names_of_registryOf reordered]
  exact perm_taken perm.symm

theorem exists_registryOf_of_append (opened : registryOf (definitions ++ others) = .ok registry) :
    ∃ registry, registryOf definitions = .ok registry := by
  obtain ⟨distinct, accepted⟩ := exists_registryOf_iff.mp ⟨_, opened⟩
  refine exists_registryOf_iff.mpr ⟨?_, fun definition member => ?_⟩
  · rw [taken_append] at distinct
    exact (List.nodup_append.mp distinct).1
  · exact accepted definition (List.mem_append_left _ member)

end Permuted

def loadAll (session : Session) : List String → Except GrammarError Session
  | [] => .ok session
  | source :: rest =>
      match session.load source with
      | .ok (next, _) => next.loadAll rest
      | .error problem => .error problem

theorem loadAll_nil (session : Session) : session.loadAll [] = .ok session := rfl

theorem loadAll_cons (session : Session) (source : String) (rest : List String) :
    session.loadAll (source :: rest) =
      (session.load source).bind fun loaded => loaded.1.loadAll rest := by
  rw [loadAll]
  cases session.load source <;> rfl

variable {session last : Session}

theorem loadAll_cons_eq_ok_iff {source : String} {rest : List String} :
    session.loadAll (source :: rest) = .ok last ↔
      ∃ next names, session.load source = .ok (next, names) ∧ next.loadAll rest = .ok last := by
  rw [loadAll]
  cases session.load source with
  | error problem => simp
  | ok loaded =>
      obtain ⟨next, names⟩ := loaded
      simp

theorem Reachable.loadAll_eq_ok_iff (reachable : session.Reachable) {sources : List String} :
    session.loadAll sources = .ok last ↔ ∃ added registry, List.Forall₂ Defines sources added ∧
      registryOf (session.definitions ++ added.flatten) = .ok registry ∧
      last = ⟨session.definitions ++ added.flatten, registry, session.start, session.mode⟩ := by
  induction sources generalizing session with
  | nil =>
      simp only [List.forall₂_nil_left_iff, loadAll, Except.ok.injEq]
      constructor
      · intro same
        refine ⟨[], session.registry, rfl, ?_, ?_⟩
        · rw [List.flatten_nil, List.append_nil]
          exact reachable.registryOf_eq
        · rw [List.flatten_nil, List.append_nil, ← same]
      · rintro ⟨_, registry, rfl, opened, same⟩
        rw [List.flatten_nil, List.append_nil] at opened same
        rw [reachable.registryOf_eq] at opened
        rw [same, ← Except.ok.inj opened]
  | cons source rest ih =>
      rw [loadAll_cons_eq_ok_iff]
      constructor
      · rintro ⟨next, names, loaded, later⟩
        have further : next.Reachable := after_load loaded ▸ reachable.after (.load source)
        obtain ⟨first, _, defines, _, same, _⟩ := load_eq_ok_iff.mp loaded
        obtain ⟨added, registry, all, opened, ends⟩ := (ih further).mp later
        subst same
        rw [List.append_assoc] at opened ends
        exact ⟨first :: added, registry, .cons defines all, opened, ends⟩
      · rintro ⟨_, registry, all, opened, ends⟩
        cases all with
        | @cons _ first _ added defines all =>
            rw [List.flatten_cons, ← List.append_assoc] at opened ends
            obtain ⟨middle, begun⟩ := exists_registryOf_of_append opened
            have loaded := load_eq_ok_iff.mpr ⟨first, middle, defines, begun, rfl, rfl⟩
            have further := after_load loaded ▸ reachable.after (.load source)
            exact ⟨_, _, loaded, (ih further).mpr ⟨added, registry, all, opened, ends⟩⟩

theorem defines_line_iff {source other : String} {forms others : List Token}
    (reads : read source = .ok forms) (readsOther : read other = .ok others)
    {definitions : List Definition} : Defines (source ++ "\n" ++ other) definitions ↔
      ∃ first second, Defines source first ∧ Defines other second ∧ definitions = first ++ second := by
  have joined : read (source ++ "\n" ++ other) = .ok (forms ++ others) := by
    rw [Reading.read_eq_ok_iff, Reading.toList_line]
    exact (Reading.read_eq_ok_iff.mp reads).line (Reading.read_eq_ok_iff.mp readsOther)
  simp only [← readDefinitions_eq_ok_iff, readDefinitions, joined, reads, readsOther]
  exact Result.mapM_append_eq_ok_iff

theorem Reachable.loadAll_pair_eq_ok_iff (reachable : session.Reachable) {source other : String} :
    session.loadAll [source, other] = .ok last ↔ ∃ first second registry, Defines source first ∧
      Defines other second ∧ registryOf (session.definitions ++ (first ++ second)) = .ok registry ∧
      last = ⟨session.definitions ++ (first ++ second), registry, session.start, session.mode⟩ := by
  rw [reachable.loadAll_eq_ok_iff]
  constructor
  · rintro ⟨_, registry, all, opened, same⟩
    cases all with
    | cons defines rest =>
        cases rest with
        | cons definesOther none =>
            cases none
            rw [List.flatten_cons, List.flatten_cons, List.flatten_nil, List.append_nil] at opened same
            exact ⟨_, _, registry, defines, definesOther, opened, same⟩
  · rintro ⟨first, second, registry, defines, definesOther, opened, same⟩
    refine ⟨[first, second], registry, .cons defines (.cons definesOther .nil), ?_, ?_⟩ <;>
      rw [List.flatten_cons, List.flatten_cons, List.flatten_nil, List.append_nil]
    · exact opened
    · exact same

theorem Reachable.loadAll_line (reachable : session.Reachable) {source other : String}
    {forms others : List Token} (reads : read source = .ok forms)
    (readsOther : read other = .ok others) :
    session.loadAll [source ++ "\n" ++ other] = .ok last ↔
      session.loadAll [source, other] = .ok last := by
  rw [reachable.loadAll_eq_ok_iff, reachable.loadAll_pair_eq_ok_iff]
  constructor
  · rintro ⟨_, registry, all, opened, same⟩
    cases all with
    | cons defines none =>
        cases none
        obtain ⟨first, second, writes, writesOther, together⟩ :=
          (defines_line_iff reads readsOther).mp defines
        rw [List.flatten_cons, List.flatten_nil, List.append_nil, together] at opened same
        exact ⟨first, second, registry, writes, writesOther, opened, same⟩
  · rintro ⟨first, second, registry, writes, writesOther, opened, same⟩
    have defines := (defines_line_iff reads readsOther).mpr ⟨first, second, writes, writesOther, rfl⟩
    refine ⟨[first ++ second], registry, .cons defines .nil, ?_, ?_⟩ <;>
      rw [List.flatten_cons, List.flatten_nil, List.append_nil]
    · exact opened
    · exact same

/-- Sessions that no run tells apart: they differ at most in the order of their definitions. -/
structure Alike (session other : Session) : Prop where
  definitions : other.definitions.Perm session.definitions
  start : other.start = session.start
  mode : other.mode = session.mode
  ruleNames : other.registry.ruleNames = session.registry.ruleNames
  lookup : ∀ name, other.registry.lookup name = session.registry.lookup name
  run : ∀ level matcher, other.registry.run level matcher = session.registry.run level matcher
  invoke : ∀ name, other.registry.invoke name = session.registry.invoke name

theorem alike_of_perm {definitions others : List Definition} {registry other : Registry}
    (perm : definitions.Perm others) (opened : registryOf definitions = .ok registry)
    (reordered : registryOf others = .ok other) (start : String) (mode : InputMode) :
    Alike ⟨definitions, registry, start, mode⟩ ⟨others, other, start, mode⟩ := by
  have within := within_of_perm perm opened reordered
  have around := within_of_perm perm.symm reordered opened
  exact {
    definitions := perm.symm
    start := rfl
    mode := rfl
    ruleNames := ruleNames_of_perm perm opened reordered
    lookup := Registry.lookup_eq_of_within within around
    run := Registry.run_eq_of_within within around
    invoke := Registry.invoke_eq_of_within within around }

theorem Reachable.exists_alike_of_perm (reachable : session.Reachable) {sources others : List String}
    (perm : sources.Perm others) (loaded : session.loadAll sources = .ok last) :
    ∃ reordered, session.loadAll others = .ok reordered ∧ last.Alike reordered := by
  obtain ⟨added, registry, all, opened, same⟩ := reachable.loadAll_eq_ok_iff.mp loaded
  obtain ⟨moved, defines, listed⟩ := List.perm_comp_forall₂ perm.symm all
  have together : (session.definitions ++ added.flatten).Perm (session.definitions ++ moved.flatten) :=
    listed.symm.flatten.append_left _
  obtain ⟨other, reordered⟩ := (exists_registryOf_of_perm together).mp ⟨registry, opened⟩
  refine ⟨_, reachable.loadAll_eq_ok_iff.mpr ⟨moved, other, defines, reordered, rfl⟩, ?_⟩
  rw [same]
  exact alike_of_perm together opened reordered session.start session.mode

/-- Two texts that read load one behind the other in both orders and as one text, or in none of these
ways; what they come to is the same. -/
theorem alike_of_loadAll_pair (reachable : session.Reachable) {source other : String}
    {forms others : List Token} (reads : read source = .ok forms)
    (readsOther : read other = .ok others) :
    ((∃ first, session.loadAll [source, other] = .ok first) ↔
      ∃ second, session.loadAll [other, source] = .ok second) ∧
    ((∃ first, session.loadAll [source, other] = .ok first) ↔
      ∃ joined, session.loadAll [source ++ "\n" ++ other] = .ok joined) ∧
    ∀ first second joined, session.loadAll [source, other] = .ok first →
      session.loadAll [other, source] = .ok second →
      session.loadAll [source ++ "\n" ++ other] = .ok joined →
        joined = first ∧ first.Alike second := by
  have swap : ∀ {one two : String}, (∃ last, session.loadAll [one, two] = .ok last) →
      ∃ last, session.loadAll [two, one] = .ok last := by
    rintro one two ⟨last, loaded⟩
    obtain ⟨reordered, again, _⟩ := reachable.exists_alike_of_perm (List.Perm.swap two one []) loaded
    exact ⟨reordered, again⟩
  refine ⟨⟨swap, swap⟩, ?_, fun first second joined inTurn swapped atOnce => ?_⟩
  · simp only [reachable.loadAll_line reads readsOther]
  · obtain ⟨reordered, again, alike⟩ :=
      reachable.exists_alike_of_perm (List.Perm.swap other source []) inTurn
    rw [swapped] at again
    rw [reachable.loadAll_line reads readsOther, inTurn] at atOnce
    cases again
    exact ⟨(Except.ok.inj atOnce).symm, alike⟩

/-- A text that ends with a comment and refers to a rule of the other one. -/
theorem alike_of_loadAll_pair_forward : ∃ session first second joined : Session,
    session.Reachable ∧
    session.loadAll ["(rule pair [one one]) ; pairs", "(rule one 1)"] = .ok first ∧
    session.loadAll ["(rule one 1)", "(rule pair [one one]) ; pairs"] = .ok second ∧
    session.loadAll ["(rule pair [one one]) ; pairs" ++ "\n" ++ "(rule one 1)"] = .ok joined ∧
    joined = first ∧ first.Alike second := by
  have computed : (open? "pair").toOption.any (fun session => (session.loadAll
      ["(rule pair [one one]) ; pairs", "(rule one 1)"]).toOption.any fun _ => true) = true := by
    simp only [open?, loadAll_nil, loadAll_cons, load, Builder.registryOf_eq]
    decide +kernel
  have readable : (read "(rule pair [one one]) ; pairs").toOption.any (fun _ => true) = true := by
    decide +kernel
  have otherReadable : (read "(rule one 1)").toOption.any (fun _ => true) = true := by decide +kernel
  obtain ⟨session, opens, loads⟩ := Result.exists_of_any computed
  obtain ⟨forms, reads, _⟩ := Result.exists_of_any readable
  obtain ⟨others, readsOther, _⟩ := Result.exists_of_any otherReadable
  obtain ⟨first, inTurn, _⟩ := Result.exists_of_any loads
  have reachable : session.Reachable := .opened opens
  obtain ⟨swapped, together, same⟩ := alike_of_loadAll_pair reachable reads readsOther
  obtain ⟨second, again⟩ := swapped.mp ⟨first, inTurn⟩
  obtain ⟨joined, atOnce⟩ := together.mp ⟨first, inTurn⟩
  obtain ⟨equal, alike⟩ := same first second joined inTurn again atOnce
  exact ⟨session, first, second, joined, reachable, inTurn, again, atOnce, equal, alike⟩

end Session

end TokenGrammar
