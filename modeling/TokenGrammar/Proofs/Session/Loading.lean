import TokenGrammar.Proofs.Registry.Termination
/-!
What sessions can become. A text that is loaded either adds all of its definitions or changes nothing, and
which error it gives is told by the text, the names that are taken and the bodies that do not compile, in
this order. Rules from before never fail again: their bodies were accepted when they were loaded, and
nothing that is loaded later changes this.
-/

namespace TokenGrammar

namespace Definition

def WrittenAs (definition : Definition) (form : Token) : Prop :=
  definition.name ≠ "" ∧ ∃ body,
    form = .list [.symbol "rule", .symbol definition.name, body] ∧ definition.body = bodyOf body

theorem ofToken_eq_ok_iff {form : Token} {definition : Definition} :
    ofToken form = .ok definition ↔ definition.WrittenAs form := by
  constructor
  · intro found
    unfold ofToken at found
    split at found
    next head name body =>
        split at found
        next written =>
          obtain ⟨named, nonempty⟩ := Bool.and_eq_true_iff.mp written
          rw [← Except.ok.inj found]
          rw [Token.isNamed_iff.mp named]
          exact ⟨bne_iff_ne.mp nonempty, body, rfl, rfl⟩
        next => cases found
    next => cases found
  · obtain ⟨name, tokens⟩ := definition
    rintro ⟨nonempty, body, rfl, rfl⟩
    exact if_pos (Bool.and_eq_true_iff.mpr ⟨beq_self_eq_true _, bne_iff_ne.mpr nonempty⟩)

theorem ofToken_eq_error {form : Token} (unwritten : ∀ definition : Definition, ¬ definition.WrittenAs form) :
    ofToken form = .error (.malformedDefinition form) := by
  have failed : ∀ definition, ofToken form ≠ .ok definition := fun definition found =>
    unwritten definition (ofToken_eq_ok_iff.mp found)
  unfold ofToken at failed ⊢
  split at failed
  next =>
      split at failed
      next => exact absurd rfl (failed _)
      next stops => exact if_neg stops
  next => rfl

def Accepted (definition : Definition) : Prop :=
  ∃ matcher, compileBody .standard definition.body = .ok matcher

end Definition

/-- A text reads, and its forms write these definitions in order. -/
def Defines (source : String) (definitions : List Definition) : Prop :=
  ∃ forms, read source = .ok forms ∧
    List.Forall₂ (fun form definition => Definition.WrittenAs definition form) forms definitions

theorem readDefinitions_eq_ok_iff {source : String} {definitions : List Definition} :
    readDefinitions source = .ok definitions ↔ Defines source definitions := by
  unfold readDefinitions Defines
  cases read source with
  | error problem => simp
  | ok forms => simp [Result.mapM_eq_ok_iff, Definition.ofToken_eq_ok_iff]

theorem exists_forall₂_writtenAs {forms : List Token}
    (written : ∀ form ∈ forms, ∃ definition : Definition, definition.WrittenAs form) :
    ∃ definitions, List.Forall₂ (fun form definition => Definition.WrittenAs definition form)
      forms definitions := by
  induction forms with
  | nil => exact ⟨[], .nil⟩
  | cons form rest ih =>
      obtain ⟨⟨definition, first⟩, later⟩ := List.forall_mem_cons.mp written
      obtain ⟨definitions, all⟩ := ih later
      exact ⟨definition :: definitions, .cons first all⟩

/-- Why a text defines nothing: it does not read, or one of its forms is no definition. -/
inductive Undefined (source : String) : GrammarError → Prop
  | unreadable {problem : ReadError} (stopped : read source = .error problem) :
      Undefined source (.unreadable problem)
  | malformed {before after : List Token} {form : Token}
      (forms : read source = .ok (before ++ form :: after))
      (earlier : ∀ other ∈ before, ∃ definition : Definition, definition.WrittenAs other)
      (unwritten : ∀ definition : Definition, ¬ definition.WrittenAs form) :
      Undefined source (.malformedDefinition form)

theorem readDefinitions_of_undefined {source : String} {problem : GrammarError}
    (undefined : Undefined source problem) : readDefinitions source = .error problem := by
  cases undefined with
  | unreadable stopped => simp only [readDefinitions, stopped]
  | @malformed before after form forms earlier unwritten =>
      have failed : (before ++ form :: after).mapM Definition.ofToken =
          .error (.malformedDefinition form) := by
        refine Result.mapM_eq_error (fun other member => ?_) (Definition.ofToken_eq_error unwritten)
        obtain ⟨definition, written⟩ := earlier other member
        exact ⟨definition, Definition.ofToken_eq_ok_iff.mpr written⟩
      simp only [readDefinitions, forms, failed]

theorem defines_or_undefined (source : String) :
    (∃ definitions, Defines source definitions) ∨ ∃ problem, Undefined source problem := by
  cases reads : read source with
  | error problem => exact .inr ⟨_, .unreadable reads⟩
  | ok forms =>
      by_cases written : ∀ form ∈ forms, ∃ definition : Definition, definition.WrittenAs form
      · obtain ⟨definitions, all⟩ := exists_forall₂_writtenAs written
        exact .inl ⟨definitions, forms, reads, all⟩
      · obtain ⟨before, form, after, same, earlier, unwritten⟩ := Result.exists_first_not written
        exact .inr ⟨_, .malformed (same ▸ reads) earlier fun definition first =>
          unwritten ⟨definition, first⟩⟩

namespace Core

theorem prepared_recipes : ∀ entry ∈ recipes,
    ∃ matcher, entry.2.prepare .standard = .ok matcher :=
  Builder.exists_prepareAll_iff.mp ⟨_, prepareAll_recipes (by decide +kernel)⟩

end Core

namespace Session

def taken (definitions : List Definition) : List String :=
  Core.names ++ definitions.map (·.name)

section Rebuilding

variable {definitions before after : List Definition} {definition : Definition} {registry : Registry}

theorem taken_append (before after : List Definition) :
    taken (before ++ after) = taken before ++ after.map (·.name) := by
  rw [taken, taken, List.map_append, List.append_assoc]

theorem names_recipes (definitions : List Definition) :
    (Core.recipes ++ definitions.map Builder.recipeOf).map Prod.fst = taken definitions := by
  rw [List.map_append, List.map_map, taken, Core.names, Core.names_matchers]
  rfl

theorem names_of_registryOf (opened : registryOf definitions = .ok registry) :
    registry.rules.names = taken definitions := by
  obtain ⟨builder, gathers, built⟩ := Builder.exists_gathers_of_registryOf opened
  rw [gathers.inStep.names_of_build built, gathers.inStep.names, gathers.entries, names_recipes]

theorem nodup_of_registryOf (opened : registryOf definitions = .ok registry) :
    (taken definitions).Nodup :=
  names_of_registryOf opened ▸ registry.rules.distinct

theorem functions_of_registryOf (opened : registryOf definitions = .ok registry) :
    registry.functions = .standard := by
  obtain ⟨builder, gathers, built⟩ := Builder.exists_gathers_of_registryOf opened
  exact (Builder.functions_of_build built).trans gathers.functions

theorem exists_compiled_of_registryOf (opened : registryOf definitions = .ok registry)
    (member : definition ∈ definitions) : ∃ matcher,
      compileBody registry.functions definition.body = .ok matcher ∧
        registry.lookup definition.name = some matcher := by
  obtain ⟨builder, gathers, built⟩ := Builder.exists_gathers_of_registryOf opened
  have listed : (definition.name, Recipe.body definition.body) ∈ builder.factories := by
    rw [gathers.entries]
    exact List.mem_append_right _ (List.mem_map_of_mem (f := Builder.recipeOf) member)
  exact gathers.inStep.exists_prepared built listed

theorem exists_gathers (distinct : (taken definitions).Nodup) : ∃ builder : Builder,
    Builder.start.registerAll (Core.recipes ++ definitions.map Builder.recipeOf) = (builder, none) ∧
      builder.Gathers definitions := by
  rw [← names_recipes] at distinct
  have free : (Builder.start.names ++
      (Core.recipes ++ definitions.map Builder.recipeOf).map Prod.fst).Nodup := distinct
  have registered := Builder.registerAll_of_nodup free
  exact ⟨_, registered, Builder.gathers_of_registerAll registered⟩

/-- A registry is built from definitions with new names and bodies that compile, and from no others. -/
theorem exists_registryOf_iff : (∃ registry, registryOf definitions = .ok registry) ↔
    (taken definitions).Nodup ∧ ∀ definition ∈ definitions, definition.Accepted := by
  constructor
  · rintro ⟨registry, opened⟩
    refine ⟨nodup_of_registryOf opened, fun definition member => ?_⟩
    obtain ⟨matcher, made, _⟩ := exists_compiled_of_registryOf opened member
    exact ⟨matcher, functions_of_registryOf opened ▸ made⟩
  · rintro ⟨distinct, accepted⟩
    obtain ⟨builder, registered, gathers⟩ := exists_gathers distinct
    have prepared : ∀ entry ∈ builder.factories,
        ∃ matcher, entry.2.prepare builder.functions = .ok matcher := by
      rw [gathers.entries, gathers.functions, List.forall_mem_append, List.forall_mem_map]
      exact ⟨Core.prepared_recipes, accepted⟩
    obtain ⟨rules, made⟩ := Builder.exists_prepareAll_iff.mpr prepared
    refine ⟨⟨.ofList rules, builder.functions⟩, ?_⟩
    rw [Builder.registryOf_eq, registered, Builder.orError_bind, Builder.build_eq]
    exact Result.map_eq_ok_iff.mpr ⟨rules, made, rfl⟩

theorem registryOf_of_taken (distinct : (taken before).Nodup) (known : definition.name ∈ taken before)
    (after : List Definition) : registryOf (before ++ definition :: after) = .error (.duplicateRule definition.name) := by
  rw [← names_recipes] at distinct known
  have free : (Builder.start.names ++
      (Core.recipes ++ before.map Builder.recipeOf).map Prod.fst).Nodup := distinct
  have stopped := @Builder.registerAll_of_taken _ _ (after.map Builder.recipeOf) _
    (.body definition.body) free known
  rw [List.append_assoc] at stopped
  rw [Builder.registryOf_eq, List.map_append, List.map_cons, Builder.recipeOf, stopped]
  rfl

theorem registryOf_of_rejected {problem : GrammarError}
    (distinct : (taken (before ++ definition :: after)).Nodup)
    (earlier : ∀ other ∈ before, other.Accepted)
    (rejected : compileBody .standard definition.body = .error problem) :
    registryOf (before ++ definition :: after) = .error (.inRule definition.name problem) := by
  obtain ⟨builder, registered, gathers⟩ := exists_gathers distinct
  have prepared : ∀ entry ∈ Core.recipes ++ before.map Builder.recipeOf,
      ∃ matcher, entry.2.prepare .standard = .ok matcher := by
    rw [List.forall_mem_append, List.forall_mem_map]
    exact ⟨Core.prepared_recipes, earlier⟩
  have stopped := @Builder.prepareAll_of_rejected _ _ (after.map Builder.recipeOf) definition.name
    (.body definition.body) _ prepared rejected
  rw [Builder.registryOf_eq, registered, Builder.orError_bind, Builder.build_eq, gathers.functions, gathers.entries, List.map_append, List.map_cons,
    ← List.append_assoc, Builder.recipeOf, stopped]
  rfl

end Rebuilding

inductive Request where
  | load (source : String)
  | start (rule : String)
  | mode (mode : InputMode)

/-- The session after a request. A text that does not load leaves it as it is. -/
def after (session : Session) : Request → Session
  | .load source =>
      match session.load source with
      | .ok (next, _) => next
      | .error _ => session
  | .start rule => session.withStart rule
  | .mode mode => session.withMode mode

inductive Reachable : Session → Prop
  | opened {start : String} {session : Session} (opens : open? start = .ok session) :
      Reachable session
  | after {session : Session} (reachable : Reachable session) (request : Request) :
      Reachable (session.after request)

variable {session next : Session} {source : String}

theorem load_of_readDefinitions {added : List Definition}
    (reads : readDefinitions source = .ok added) :
    session.load source = (registryOf (session.definitions ++ added)).map fun registry =>
      (⟨session.definitions ++ added, registry, session.start, session.mode⟩, added.map (·.name)) := by
  rw [load, reads, Result.ok_bind, Result.bind_pure_eq_map]

theorem load_eq_ok_iff {names : List String} : session.load source = .ok (next, names) ↔
    ∃ added registry, Defines source added ∧
      registryOf (session.definitions ++ added) = .ok registry ∧
      next = ⟨session.definitions ++ added, registry, session.start, session.mode⟩ ∧
      names = added.map (·.name) := by
  constructor
  · intro loaded
    cases reads : readDefinitions source with
    | error problem =>
        rw [load, reads] at loaded
        cases loaded
    | ok added =>
        rw [load_of_readDefinitions reads, Result.map_eq_ok_iff] at loaded
        obtain ⟨registry, opened, same⟩ := loaded
        cases same
        exact ⟨added, registry, readDefinitions_eq_ok_iff.mp reads, opened, rfl, rfl⟩
  · rintro ⟨added, registry, defines, opened, rfl, rfl⟩
    rw [load_of_readDefinitions (readDefinitions_eq_ok_iff.mpr defines), opened]
    rfl

theorem exists_open (start : String) : ∃ session, open? start = .ok session := by
  have distinct : (taken []).Nodup := by
    rw [taken, List.map_nil, List.append_nil]
    exact Core.nodup_names_matchers
  obtain ⟨registry, opened⟩ := exists_registryOf_iff.mpr ⟨distinct, List.forall_mem_nil _⟩
  exact ⟨_, Result.map_eq_ok_iff.mpr ⟨registry, opened, rfl⟩⟩

theorem after_load {names : List String} (loaded : session.load source = .ok (next, names)) :
    session.after (.load source) = next := by
  simp only [after, loaded]

theorem after_load_of_error {problem : GrammarError} (failed : session.load source = .error problem) :
    session.after (.load source) = session := by
  simp only [after, failed]

theorem Reachable.registryOf_eq (reachable : session.Reachable) :
    registryOf session.definitions = .ok session.registry := by
  induction reachable with
  | opened opens =>
      obtain ⟨registry, opened, same⟩ := Result.map_eq_ok_iff.mp opens
      rw [← same]
      exact opened
  | @after session _ request ih =>
      cases request with
      | load source =>
          cases result : session.load source with
          | error problem =>
              rw [after_load_of_error result]
              exact ih
          | ok loaded =>
              obtain ⟨added, registry, _, opened, same, _⟩ := load_eq_ok_iff.mp result
              rw [after_load result, same]
              exact opened
      | start rule => exact ih
      | mode mode => exact ih

/-- What holds of a session at any time. -/
structure Consistent (session : Session) : Prop where
  distinct : (session.definitions.map (·.name)).Nodup
  new : ∀ definition ∈ session.definitions, definition.name ∉ Core.names
  compiled : ∀ definition ∈ session.definitions, ∃ matcher,
    compileBody session.registry.functions definition.body = .ok matcher ∧
      session.registry.lookup definition.name = some matcher
  sorted : session.registry.ruleNames.Pairwise (· < ·)
  named : ∀ name, name ∈ session.registry.ruleNames ↔
    name ∈ Core.names ∨ ∃ definition ∈ session.definitions, definition.name = name
  functions : session.registry.functions = .standard

theorem Reachable.consistent (reachable : session.Reachable) : session.Consistent := by
  have opened := reachable.registryOf_eq
  obtain ⟨_, distinct, apart⟩ := List.nodup_append.mp (nodup_of_registryOf opened)
  exact {
    distinct := distinct
    new := fun definition member own =>
      apart definition.name own definition.name (List.mem_map_of_mem member) rfl
    compiled := fun definition member => exists_compiled_of_registryOf opened member
    sorted := session.registry.rules.pairwise_sortedNames
    named := fun name => by
      rw [Registry.ruleNames, NameMap.mem_sortedNames, names_of_registryOf opened, taken,
        List.mem_append, List.mem_map]
    functions := functions_of_registryOf opened }

structure Fresh (session : Session) (added : List Definition) : Prop where
  distinct : (added.map (·.name)).Nodup
  new : ∀ definition ∈ added, definition.name ∉ Core.names ∧
    ∀ other ∈ session.definitions, other.name ≠ definition.name

/-- What loading a text comes to. Each kind of error is met before those that are listed behind it. -/
inductive LoadsAs (session : Session) (source : String) :
    Except GrammarError (Session × List String) → Prop
  | unreadable {problem : ReadError} (stopped : read source = .error problem) :
      LoadsAs session source (.error (.unreadable problem))
  | malformed {before after : List Token} {form : Token}
      (forms : read source = .ok (before ++ form :: after))
      (earlier : ∀ other ∈ before, ∃ definition : Definition, definition.WrittenAs other)
      (unwritten : ∀ definition : Definition, ¬ definition.WrittenAs form) :
      LoadsAs session source (.error (.malformedDefinition form))
  | duplicate {before after : List Definition} {definition : Definition}
      (defines : Defines source (before ++ definition :: after)) (fresh : session.Fresh before)
      (known : definition.name ∈ Core.names ∨
        ∃ other ∈ session.definitions ++ before, other.name = definition.name) :
      LoadsAs session source (.error (.duplicateRule definition.name))
  | rejected {before after : List Definition} {definition : Definition} {problem : GrammarError}
      (defines : Defines source (before ++ definition :: after))
      (fresh : session.Fresh (before ++ definition :: after))
      (earlier : ∀ other ∈ before, other.Accepted)
      (stopped : compileBody .standard definition.body = .error problem) :
      LoadsAs session source (.error (.inRule definition.name problem))
  | loaded {added : List Definition} {registry : Registry} (defines : Defines source added)
      (fresh : session.Fresh added) (accepted : ∀ definition ∈ added, definition.Accepted)
      (opened : registryOf (session.definitions ++ added) = .ok registry) :
      LoadsAs session source
        (.ok (⟨session.definitions ++ added, registry, session.start, session.mode⟩,
          added.map (·.name)))

theorem fresh_nil (session : Session) : session.Fresh [] :=
  ⟨List.nodup_nil, List.forall_mem_nil _⟩

theorem fresh_iff (distinct : (taken session.definitions).Nodup) {added : List Definition} :
    session.Fresh added ↔ (taken (session.definitions ++ added)).Nodup := by
  rw [taken_append, List.nodup_append]
  constructor
  · intro fresh
    refine ⟨distinct, fresh.distinct, ?_⟩
    intro name known other member same
    obtain ⟨definition, listed, named⟩ := List.mem_map.mp member
    obtain ⟨foreign, different⟩ := fresh.new definition listed
    rcases List.mem_append.mp known with own | earlier
    · exact foreign (named.trans same.symm ▸ own)
    · obtain ⟨old, inside, called⟩ := List.mem_map.mp earlier
      exact different old inside (called.trans (same.trans named.symm))
  · rintro ⟨_, among, apart⟩
    refine ⟨among, fun definition listed => ?_⟩
    have free : ∀ name ∈ taken session.definitions, name ≠ definition.name := fun name known =>
      apart name known definition.name (List.mem_map_of_mem listed)
    refine ⟨fun own => free definition.name (List.mem_append_left _ own) rfl, fun old inside => ?_⟩
    exact free old.name (List.mem_append_right _ (List.mem_map_of_mem inside))

theorem mem_taken_append {added : List Definition} {name : String} :
    name ∈ taken (session.definitions ++ added) ↔
      name ∈ Core.names ∨ ∃ other ∈ session.definitions ++ added, other.name = name := by
  rw [taken, List.mem_append, List.mem_map]

theorem load_of_registryOf {added : List Definition} {outcome : Except GrammarError Registry}
    (defines : Defines source added) (built : registryOf (session.definitions ++ added) = outcome) :
    session.load source = outcome.map fun registry =>
      (⟨session.definitions ++ added, registry, session.start, session.mode⟩, added.map (·.name)) := by
  rw [load_of_readDefinitions (readDefinitions_eq_ok_iff.mpr defines), built]

theorem load_of_undefined {problem : GrammarError} (undefined : Undefined source problem) :
    session.load source = .error problem := by
  rw [load, readDefinitions_of_undefined undefined]
  rfl

theorem Reachable.load_eq (reachable : session.Reachable)
    {outcome : Except GrammarError (Session × List String)} (loads : session.LoadsAs source outcome) :
    session.load source = outcome := by
  have distinct := nodup_of_registryOf reachable.registryOf_eq
  have accepted := (exists_registryOf_iff.mp ⟨_, reachable.registryOf_eq⟩).2
  cases loads with
  | unreadable stopped => exact load_of_undefined (.unreadable stopped)
  | malformed forms earlier unwritten => exact load_of_undefined (.malformed forms earlier unwritten)
  | @duplicate before after definition defines fresh known =>
      have stopped := registryOf_of_taken ((fresh_iff distinct).mp fresh)
        (mem_taken_append.mpr known) after
      rw [List.append_assoc] at stopped
      exact load_of_registryOf defines stopped
  | @rejected before after definition problem defines fresh earlier stopped =>
      -- No definition from before is the first that does not compile: all of them are in a registry.
      have free := (fresh_iff distinct).mp fresh
      rw [← List.append_assoc] at free
      have failed := registryOf_of_rejected free
        (List.forall_mem_append.mpr ⟨accepted, earlier⟩) stopped
      rw [List.append_assoc] at failed
      exact load_of_registryOf defines failed
  | loaded defines fresh _ opened => exact load_of_registryOf defines opened

theorem Reachable.exists_loadsAs (reachable : session.Reachable) (source : String) :
    ∃ outcome, session.LoadsAs source outcome := by
  have distinct := nodup_of_registryOf reachable.registryOf_eq
  have compiled := (exists_registryOf_iff.mp ⟨_, reachable.registryOf_eq⟩).2
  rcases defines_or_undefined source with ⟨added, defines⟩ | ⟨problem, undefined⟩
  · by_cases fresh : session.Fresh added
    · by_cases accepted : ∀ definition ∈ added, definition.Accepted
      · obtain ⟨registry, opened⟩ := exists_registryOf_iff.mpr
          ⟨(fresh_iff distinct).mp fresh, List.forall_mem_append.mpr ⟨compiled, accepted⟩⟩
        exact ⟨_, .loaded defines fresh accepted opened⟩
      · obtain ⟨before, definition, after, same, earlier, refused⟩ :=
          Result.exists_first_not accepted
        cases result : compileBody .standard definition.body with
        | ok matcher => exact absurd ⟨matcher, result⟩ refused
        | error problem =>
            exact ⟨_, .rejected (same ▸ defines) (same ▸ fresh) earlier result⟩
    · obtain ⟨before, definition, after, same, earlier, stops⟩ :=
        Result.exists_first_failure session.fresh_nil fresh
      refine ⟨_, .duplicate (same ▸ defines) earlier ?_⟩
      rw [← mem_taken_append]
      by_contra free
      refine stops ((fresh_iff distinct).mpr ?_)
      rw [← List.append_assoc, taken_append]
      exact List.nodup_append.mpr ⟨(fresh_iff distinct).mp earlier, List.nodup_singleton _,
        fun name known other member => by
          rw [List.mem_singleton.mp member]
          rintro rfl
          exact free known⟩
  · cases undefined with
    | unreadable stopped => exact ⟨_, .unreadable stopped⟩
    | malformed forms earlier unwritten => exact ⟨_, .malformed forms earlier unwritten⟩

theorem Reachable.load_eq_iff (reachable : session.Reachable)
    {outcome : Except GrammarError (Session × List String)} :
    session.load source = outcome ↔ session.LoadsAs source outcome := by
  constructor
  · intro result
    obtain ⟨described, loads⟩ := reachable.exists_loadsAs source
    rw [← result, reachable.load_eq loads]
    exact loads
  · exact reachable.load_eq

/-- Sessions open from any start, stay consistent whatever is asked of them, and take all definitions of
a text or, with the first error in the order of `LoadsAs`, none. -/
theorem consistent_and_loadsAs_of_reachable :
    (∀ start, ∃ session, open? start = .ok session ∧ session.definitions = [] ∧
      session.start = start ∧ session.mode = .tokens) ∧
    ∀ session : Session, session.Reachable → session.Consistent ∧
      (∀ source outcome, session.load source = outcome ↔ session.LoadsAs source outcome) ∧
      (∀ source next names, session.load source = .ok (next, names) →
        session.after (.load source) = next ∧ next.start = session.start ∧
          next.mode = session.mode ∧ ∃ added, Defines source added ∧
            next.definitions = session.definitions ++ added ∧ names = added.map (·.name)) ∧
      (∀ source problem, session.load source = .error problem →
        session.after (.load source) = session) := by
  refine ⟨fun start => ?_, fun session reachable => ⟨reachable.consistent, ?_, ?_, ?_⟩⟩
  · obtain ⟨session, opens⟩ := exists_open start
    obtain ⟨registry, _, same⟩ := Result.map_eq_ok_iff.mp opens
    exact ⟨session, opens, same ▸ rfl, same ▸ rfl, same ▸ rfl⟩
  · exact fun source outcome => reachable.load_eq_iff
  · intro source next names result
    obtain ⟨added, registry, defines, _, same, named⟩ := load_eq_ok_iff.mp result
    refine ⟨after_load result, ?_⟩
    subst same
    exact ⟨rfl, rfl, added, defines, rfl, named⟩
  · exact fun source problem result => after_load_of_error result

/-- A session keeps its only rule when another text defines it again; that the text has a body that does
not compile as well is not reported. -/
theorem consistent_and_loadsAs_of_reachable_twice : ∃ session : Session, session.Reachable ∧
    session.definitions.map (·.name) = ["one"] ∧ session.Consistent ∧
    session.LoadsAs "(rule two [1 + +]) (rule one 2)" (.error (.duplicateRule "one")) ∧
    session.after (.load "(rule two [1 + +]) (rule one 2)") = session := by
  have computed : (open? "one").toOption.any (fun opened =>
      (opened.load "(rule one 1)").toOption.any fun loaded =>
        (loaded.1.definitions.map (·.name) == ["one"]) &&
          (Result.problem? (loaded.1.load "(rule two [1 + +]) (rule one 2)")).any
            fun | .duplicateRule name => name == "one" | _ => false) = true := by
    simp only [open?, load, Builder.registryOf_eq]
    decide +kernel
  obtain ⟨opened, opens, loads⟩ := Result.exists_of_any computed
  obtain ⟨⟨session, names⟩, loaded, tested⟩ := Result.exists_of_any loads
  obtain ⟨one, again⟩ := Bool.and_eq_true_iff.mp tested
  have reachable : session.Reachable :=
    after_load loaded ▸ Reachable.after (.opened opens) (.load "(rule one 1)")
  obtain ⟨problem, failed, duplicate⟩ := Result.exists_of_any_problem again
  split at duplicate
  next name =>
    rw [beq_iff_eq.mp duplicate] at failed
    obtain ⟨consistent, loads, _, unchanged⟩ := consistent_and_loadsAs_of_reachable.2 session reachable
    exact ⟨session, reachable, beq_iff_eq.mp one, consistent, (loads _ _).mp failed,
      unchanged _ _ failed⟩
  next => cases duplicate

end Session

end TokenGrammar
