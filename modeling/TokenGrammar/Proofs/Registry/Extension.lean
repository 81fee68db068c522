import TokenGrammar.Proofs.Registry.Agreement
import TokenGrammar.Proofs.Registry.SelfDescription
/-!
Registries that are extended by further rules. A matcher that finds all its rules in a registry is run
alike in every registry that is built with the same functions and with more recipes. The core rules find
all their rules among the core rules, so that no definition changes what bodies are compiled to, and
every registry of core rules and definitions describes itself.
-/

namespace TokenGrammar

theorem Generation.Consults.asks {kind : FormKind} {name : String}
    (consults : Generation.Consults kind name) : Generation.Asks name := by
  cases kind with
  | group => exact consults
  | quantified _ | negated => exact .inr (.inr consults)
  | _ => exact consults.elim

theorem Matcher.Consults.refersTo {matcher : Matcher} {name : String}
    (consults : matcher.Consults name) : matcher.RefersTo name := by
  rcases consults with reference | ⟨kind, recognizer, compiler, asked⟩
  · exact .inl reference
  · exact .inr ⟨asked.asks, kind, recognizer, compiler⟩

theorem Matcher.Plain.mem_references {matcher : Matcher} (plain : matcher.Plain) {name : String}
    (consults : matcher.Consults name) : name ∈ matcher.references := by
  rcases consults with reference | ⟨kind, recognizer, compiler, _⟩
  · exact Matcher.mem_references_of_part reference
  · exact (plain _ compiler).elim

theorem Matcher.eq_of_consults_rule {name consulted : String}
    (consults : (Matcher.rule name).Consults consulted) : consulted = name := by
  rcases consults with reference | ⟨kind, recognizer, compiler, _⟩
  · cases reference
    rfl
  · cases compiler

namespace Registry

theorem within_withoutRules {registry other : Registry}
    (functions : other.functions = registry.functions) : registry.withoutRules.Within other :=
  ⟨functions, fun _ _ known => nomatch known⟩

end Registry

namespace Builder

theorem within_of_build {small large : Builder} {registry extended : Registry}
    (functions : large.functions = small.functions)
    (kept : small.factories ⊆ large.factories) (inStep : large.InStep)
    (built : small.build = .ok registry) (builtLarge : large.build = .ok extended) :
    registry.Within extended := by
  have same : extended.functions = registry.functions := by
    rw [functions_of_build builtLarge, functions_of_build built, functions]
  refine ⟨same, ?_⟩
  intro name matcher known
  obtain ⟨recipe, member, made⟩ := exists_recipe_of_lookup built known
  exact (inStep.lookup_eq_some_iff builtLarge).mpr ⟨recipe, kept member, same ▸ made⟩

section CoreRules

variable {builder other : Builder} {registry otherRegistry : Registry}

theorem HasCore.mem_names_of_leadsTo (core : builder.HasCore)
    (built : builder.build = .ok registry)
    (unquoted : registry.functions.contains "quote" = false) {matcher : Matcher}
    (own : ∀ name, matcher.Consults name → name ∈ Core.names) {name : String}
    (leads : registry.LeadsTo matcher name) : name ∈ Core.names := by
  have closed : ∀ rule body callee, rule ∈ Core.names → registry.lookup rule = some body →
      body.Consults callee → callee ∈ Core.names := fun rule body callee inside known consults =>
    (core.ranked built unquoted).closed rule body callee inside known consults.refersTo
  exact leads.closed closed own

theorem HasCore.contains (core : builder.HasCore) (built : builder.build = .ok registry)
    {name : String} (own : name ∈ Core.names) : registry.contains name = true := by
  rw [Core.names, Core.names_matchers] at own
  obtain ⟨⟨found, recipe⟩, member, same⟩ := List.mem_map.mp own
  obtain ⟨matcher, _, known⟩ := core.inStep.exists_prepared built (core.recipes _ member)
  exact same ▸ Option.isSome_of_eq_some known

theorem HasCore.resolves (core : builder.HasCore) (built : builder.build = .ok registry)
    (unquoted : registry.functions.contains "quote" = false) {matcher : Matcher}
    (own : ∀ name, matcher.Consults name → name ∈ Core.names) : registry.Resolves matcher :=
  fun _ leads => core.contains built (core.mem_names_of_leadsTo built unquoted own leads)

/-- Core rules do the same in all registries of core rules and definitions. -/
theorem Described.invoke_core_eq (described : builder.Described) (otherDescribed : other.Described)
    (built : builder.build = .ok registry) (otherBuilt : other.build = .ok otherRegistry)
    (functions : otherRegistry.functions = registry.functions)
    (unquoted : registry.functions.contains "quote" = false) {name : String}
    (own : name ∈ Core.names) : otherRegistry.invoke name = registry.invoke name := by
  have otherUnquoted : otherRegistry.functions.contains "quote" = false := functions ▸ unquoted
  have runs : ∀ level, otherRegistry.run level (.rule name) = registry.run level (.rule name) := by
    intro level
    refine Registry.run_eq_of_agree functions level _ fun callee leads => ?_
    have inside : callee ∈ Core.names := by
      refine described.core.mem_names_of_leadsTo built unquoted ?_ leads
      intro consulted consults
      rwa [Matcher.eq_of_consults_rule consults]
    obtain ⟨matcher, member⟩ := Core.exists_matcher_of_mem_names inside
    rw [described.core.lookup_eq built unquoted member,
      otherDescribed.core.lookup_eq otherBuilt otherUnquoted member]
  funext input bindings
  obtain ⟨_, enough, same⟩ := described.returns built unquoted own input bindings
  obtain ⟨_, otherEnough, otherSame⟩ :=
    otherDescribed.returns otherBuilt otherUnquoted own input bindings
  rw [← same (enough + otherEnough) (Nat.le_add_right _ _),
    ← otherSame (enough + otherEnough) (Nat.le_add_left _ _), runs]

theorem exists_core {functions : FunctionTable} (unquoted : functions.contains "quote" = false) :
    ∃ core registry, (start.withFunctions functions).withCore = .ok core ∧
      core.Described ∧ core.build = .ok registry ∧ registry.functions = functions := by
  have described : (core functions).Described := ⟨hasCore_core functions, fun _ member => .inl member⟩
  have built : (core functions).build = .ok ⟨.ofList Core.matchers, functions⟩ := by
    rw [build_eq]
    exact Result.map_eq_ok_iff.mpr ⟨_, Core.prepareAll_recipes unquoted, rfl⟩
  exact ⟨core functions, _, withCore_start_eq functions, described, built, rfl⟩

theorem Described.accepts (described : builder.Described) (built : builder.build = .ok registry)
    (unquoted : registry.functions.contains "quote" = false) {body : List Token} {matcher : Matcher}
    (made : compileBody registry.functions body = .ok matcher) : registry.accepts body = true := by
  have compiled : registry.compile body = .succeeded matcher := by
    rw [Registry.compile, described.invoke_compiler built unquoted, Step.compiling_vector, made]
    rfl
  rw [Registry.accepts, compiled]

theorem verifyCompilers_eq_ok {texts : List (FormKind × String)}
    {recognizers : List (FormKind × List Token)} (reads : Core.ReadAs texts recognizers)
    (accepts : ∀ entry ∈ recognizers, registry.accepts entry.2 = true) :
    registry.verifyCompilers texts = .ok () := by
  induction reads with
  | nil => rfl
  | @cons written entry _ _ same _ ih =>
      obtain ⟨kind, text⟩ := written
      obtain ⟨first, later⟩ := List.forall_mem_cons.mp accepts
      dsimp only at same
      simp only [Registry.verifyCompilers, same.2, first, if_true]
      exact ih later

theorem verifyBy_eq_ok {grammar : String} {definitions : List Definition}
    {texts : List (FormKind × String)} {recognizers : List (FormKind × List Token)}
    (defines : readDefinitions grammar = .ok definitions) (reads : Core.ReadAs texts recognizers)
    (bodies : ∀ definition ∈ definitions, registry.accepts definition.body = true)
    (accepts : ∀ entry ∈ recognizers, registry.accepts entry.2 = true) :
    registry.verifyBy grammar texts = .ok () := by
  have none : definitions.find? (fun definition => !registry.accepts definition.body) = none := by
    rw [List.find?_eq_none]
    intro definition listed
    simp [bodies definition listed]
  simp only [Registry.verifyBy, defines, none]
  exact verifyCompilers_eq_ok reads accepts

theorem Described.verify_eq_ok (described : builder.Described)
    (built : builder.build = .ok registry)
    (unquoted : registry.functions.contains "quote" = false) : registry.verify = .ok () := by
  refine verifyBy_eq_ok Core.readDefinitions_grammarText Core.recognizerTexts_readAs ?_ ?_
  · intro definition listed
    have recipe : (definition.name, .body definition.body) ∈ Core.recipes :=
      List.mem_append_right _ (List.mem_append_left _ (List.mem_map_of_mem listed))
    obtain ⟨matcher, made, _⟩ := described.core.inStep.exists_prepared built
      (described.core.recipes _ recipe)
    exact described.accepts built unquoted made
  · intro ⟨kind, recognizer⟩ listed
    have recipe : (kind.compiler, .compiler kind recognizer) ∈ Core.recipes :=
      List.mem_append_right _ (List.mem_append_right _
        (List.mem_map_of_mem (f := fun recognizer =>
          (recognizer.1.compiler, Recipe.compiler recognizer.1 recognizer.2)) listed))
    obtain ⟨_, made, _⟩ := described.core.inStep.exists_prepared built
      (described.core.recipes _ recipe)
    obtain ⟨matcher, compiled, _⟩ := Result.map_eq_ok_iff.mp made
    exact described.accepts built unquoted compiled

end CoreRules

end Builder

namespace Registry

/-- A registry may be extended by any recipes: what finds all its rules in it is run alike in the larger
one at every level, also after the rules of the smaller one, or of both, are gone. No definition changes
a core rule, so that all registries of core rules and definitions describe themselves. -/
theorem run_eq_of_extended {small large : Builder} {registry extended : Registry}
    (functions : large.functions = small.functions)
    (kept : small.factories ⊆ large.factories) (inStep : large.InStep)
    (built : small.build = .ok registry) (builtLarge : large.build = .ok extended) :
    (∀ base other, (base = registry ∧ other = extended ∨ base = registry.withoutRules ∧
        (other = extended ∨ other = extended.withoutRules)) →
      (∀ matcher, base.Resolves matcher →
        (∀ level, other.run level matcher = base.run level matcher) ∧
          other.matchFront matcher = base.matchFront matcher) ∧
      ∀ name, base.Resolves (.rule name) → other.invoke name = base.invoke name) ∧
    (large.Described → extended.functions.contains "quote" = false →
      (∃ core coreRegistry, (Builder.start.withFunctions large.functions).withCore = .ok core ∧
        core.build = .ok coreRegistry ∧
        ∀ name ∈ Core.names, extended.invoke name = coreRegistry.invoke name) ∧
      extended.verify = .ok ()) := by
  have within := Builder.within_of_build functions kept inStep built builtLarge
  constructor
  · intro base other either
    have around : base.Within other := by
      rcases either with ⟨same, equal⟩ | ⟨same, equal | equal⟩
      · exact same ▸ equal ▸ within
      · exact same ▸ equal ▸ within_withoutRules within.functions
      · exact same ▸ equal ▸ within_withoutRules within.functions
    refine ⟨fun matcher resolves => ⟨around.run_eq resolves, ?_⟩, fun name resolves => ?_⟩
    · exact around.matchFront_eq resolves
    · exact around.invoke_eq resolves
  · intro described unquoted
    have same := Builder.functions_of_build builtLarge
    obtain ⟨core, coreRegistry, added, coreDescribed, coreBuilt, own⟩ :=
      Builder.exists_core (same ▸ unquoted)
    refine ⟨⟨core, coreRegistry, added, coreBuilt, fun name inside => ?_⟩,
      described.verify_eq_ok builtLarge unquoted⟩
    exact coreDescribed.invoke_core_eq described coreBuilt builtLarge (same.trans own.symm)
      (own ▸ same ▸ unquoted) inside

/-- A symbol and a number, matched by core rules in a session without definitions and in one that defines
a rule for such pairs. -/
theorem run_eq_of_extended_pair : ∃ (small large : Builder) (registry extended : Registry)
    (matcher : Matcher) (found : Success),
    large.functions = small.functions ∧ small.factories ⊆ large.factories ∧ large.InStep ∧
      small.build = .ok registry ∧ large.build = .ok extended ∧
      compileBody registry.functions [.symbol "symbol", .symbol "number"] = .ok matcher ∧
      registry.Resolves matcher ∧ large.Described ∧ extended.functions.contains "quote" = false ∧
      registry.matchFront matcher [.symbol "a", .integer 1] ∅ = .succeeded found ∧
      extended.matchFront matcher [.symbol "a", .integer 1] ∅ = .succeeded found ∧
      extended.verify = .ok () := by
  have computed : (Session.registryOf []).toOption.any (fun registry =>
      (compileBody .standard [.symbol "symbol", .symbol "number"]).toOption.any fun matcher =>
        matcher.references.all (Core.names.contains ·) &&
          (registry.matchFront matcher [.symbol "a", .integer 1] ∅).any (·.consumed == 2)) = true := by
    rw [Builder.registryOf_eq]
    decide +kernel
  have defines : (Session.registryOf
      [⟨"pair", [.symbol "symbol", .symbol "number"]⟩]).toOption.any (fun _ => true) = true := by
    rw [Builder.registryOf_eq]
    decide +kernel
  obtain ⟨registry, opened, compiles⟩ := Result.exists_of_any computed
  obtain ⟨matcher, made, tested⟩ := Result.exists_of_any compiles
  obtain ⟨extended, defined, _⟩ := Result.exists_of_any defines
  obtain ⟨small, gathers, built⟩ := Builder.exists_gathers_of_registryOf opened
  obtain ⟨large, gathersLarge, builtLarge⟩ := Builder.exists_gathers_of_registryOf defined
  obtain ⟨own, matched⟩ := Bool.and_eq_true_iff.mp tested
  obtain ⟨found, succeeded, _⟩ := Outcome.any_eq_true.mp matched
  have same : large.functions = small.functions := gathersLarge.functions.trans gathers.functions.symm
  have kept : small.factories ⊆ large.factories := by
    rw [gathers.entries, gathersLarge.entries, List.map_nil, List.append_nil]
    exact List.subset_append_left _ _
  have standard : registry.functions = .standard :=
    (Builder.functions_of_build built).trans gathers.functions
  have standardLarge : extended.functions = .standard :=
    (Builder.functions_of_build builtLarge).trans gathersLarge.functions
  have unquoted : FunctionTable.standard.contains "quote" = false := by decide +kernel
  have resolves : registry.Resolves matcher := by
    refine gathers.described.core.resolves built (standard ▸ unquoted) fun name consults => ?_
    have listed := (plain_of_compileBody made).mem_references consults
    exact List.contains_iff_mem.mp (List.all_eq_true.mp own name listed)
  obtain ⟨alike, stable⟩ := run_eq_of_extended same kept gathersLarge.inStep built builtLarge
  have equal := ((alike registry extended (.inl ⟨rfl, rfl⟩)).1 matcher resolves).2
  have matchedLarge : extended.matchFront matcher [.symbol "a", .integer 1] ∅ = .succeeded found := by
    rw [equal, succeeded]
  exact ⟨small, large, registry, extended, matcher, found, same, kept, gathersLarge.inStep, built, builtLarge,
    standard ▸ made, resolves, gathersLarge.described, standardLarge ▸ unquoted, succeeded,
    matchedLarge, (stable gathersLarge.described (standardLarge ▸ unquoted)).2⟩

end Registry

end TokenGrammar
