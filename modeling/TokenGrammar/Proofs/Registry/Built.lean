import TokenGrammar.Proofs.Compilation
import TokenGrammar.Proofs.NameMap
import TokenGrammar.Proofs.Registry.CoreTexts
import TokenGrammar.Session
/-!
Builders and the registries that they build. A registration adds its name and its recipe behind the others,
so that names and recipes stay in step; building goes on after a failure, but its result is as if it had
stopped there. A built registry has a rule exactly for every recipe of its builder, made with the functions
that are in force when it is built.
-/

namespace TokenGrammar

namespace Recipe

def IsDefinition (recipe : Recipe) : Prop := ∃ body, recipe = .body body

def IsLiteral (recipe : Recipe) : Prop := ∃ expected, recipe = .ready (.literal expected)

end Recipe

namespace Core

def recipes : List (String × Recipe) := primitives ++ selfDescription

theorem nodup_names : (recipes.map Prod.fst).Nodup := by decide

end Core

namespace Builder

/-- The rules that recipes make, or the first error with the name of its rule. -/
def prepareAll (functions : FunctionTable) :
    List (String × Recipe) → Except GrammarError (List (String × Matcher))
  | [] => .ok []
  | (name, recipe) :: rest =>
      match recipe.prepare functions with
      | .error problem => .error (.inRule name problem)
      | .ok matcher => (prepareAll functions rest).map ((name, matcher) :: ·)

theorem prepareAll_eq_ok_iff {functions : FunctionTable} {entries : List (String × Recipe)}
    {rules : List (String × Matcher)} :
    prepareAll functions entries = .ok rules ↔
      List.Forall₂ (fun entry rule => entry.1 = rule.1 ∧ entry.2.prepare functions = .ok rule.2)
        entries rules := by
  induction entries generalizing rules with
  | nil =>
      simp only [prepareAll, Except.ok.injEq, List.forall₂_nil_left_iff]
      exact eq_comm
  | cons entry rest ih =>
      obtain ⟨name, recipe⟩ := entry
      rw [List.forall₂_cons_left_iff]
      unfold prepareAll
      cases made : recipe.prepare functions with
      | error problem => simp
      | ok matcher =>
          simp only [Result.map_eq_ok_iff, ih, Except.ok.injEq]
          constructor
          · rintro ⟨others, all, same⟩
            exact ⟨(name, matcher), others, ⟨rfl, rfl⟩, all, same.symm⟩
          · rintro ⟨⟨found, value⟩, others, ⟨named, equal⟩, all, same⟩
            dsimp only at named equal
            subst named equal
            exact ⟨others, all, same.symm⟩

theorem names_of_prepareAll {functions : FunctionTable} {entries : List (String × Recipe)}
    {rules : List (String × Matcher)} (prepared : prepareAll functions entries = .ok rules) :
    rules.map Prod.fst = entries.map Prod.fst := by
  have all := prepareAll_eq_ok_iff.mp prepared
  clear prepared
  induction all with
  | nil => rfl
  | cons first _ ih => rw [List.map_cons, List.map_cons, ih, first.1]

theorem mem_iff_of_prepareAll {functions : FunctionTable} {entries : List (String × Recipe)}
    {rules : List (String × Matcher)} (prepared : prepareAll functions entries = .ok rules)
    {name : String} {matcher : Matcher} :
    (name, matcher) ∈ rules ↔
      ∃ recipe, (name, recipe) ∈ entries ∧ recipe.prepare functions = .ok matcher := by
  have all := prepareAll_eq_ok_iff.mp prepared
  clear prepared
  induction all with
  | nil => simp
  | @cons entry rule entries rules first _ ih =>
      obtain ⟨found, recipe⟩ := entry
      obtain ⟨same, made⟩ := first
      dsimp only at same made
      subst same
      constructor
      · intro listed
        rcases List.mem_cons.mp listed with here | later
        · subst here
          exact ⟨recipe, List.mem_cons_self, made⟩
        · obtain ⟨other, member, prepared⟩ := ih.mp later
          exact ⟨other, List.mem_cons_of_mem _ member, prepared⟩
      · rintro ⟨other, member, prepared⟩
        rcases List.mem_cons.mp member with here | later
        · cases here
          rw [made] at prepared
          exact Except.ok.inj prepared ▸ List.mem_cons_self
        · exact List.mem_cons_of_mem _ (ih.mpr ⟨other, later, prepared⟩)

theorem exists_prepareAll_iff {functions : FunctionTable} {entries : List (String × Recipe)} :
    (∃ rules, prepareAll functions entries = .ok rules) ↔
      ∀ entry ∈ entries, ∃ matcher, entry.2.prepare functions = .ok matcher := by
  induction entries with
  | nil => simp [prepareAll]
  | cons entry rest ih =>
      rw [List.forall_mem_cons, ← ih, prepareAll]
      cases made : entry.2.prepare functions with
      | error problem => simp
      | ok matcher => simp [Result.map_eq_ok_iff]

theorem prepareAll_of_rejected {functions : FunctionTable} {before after : List (String × Recipe)}
    {name : String} {recipe : Recipe} {problem : GrammarError}
    (earlier : ∀ entry ∈ before, ∃ matcher, entry.2.prepare functions = .ok matcher)
    (rejected : recipe.prepare functions = .error problem) :
    prepareAll functions (before ++ (name, recipe) :: after) = .error (.inRule name problem) := by
  induction before with
  | nil => rw [List.nil_append, prepareAll, rejected]
  | cons entry rest ih =>
      obtain ⟨⟨matcher, made⟩, later⟩ := List.forall_mem_cons.mp earlier
      rw [List.cons_append, prepareAll, made, ih later]
      rfl

theorem failure_foldl_make {functions : FunctionTable} (problem : GrammarError)
    (entries : List (String × Recipe)) : ∀ rules : NameMap Matcher,
    (entries.foldl (Making.make functions) ⟨rules, some problem⟩).failure = some problem := by
  induction entries with
  | nil => exact fun _ => rfl
  | cons entry rest ih =>
      intro rules
      rw [List.foldl_cons, Making.make]
      split
      · exact ih _
      · exact ih _

/-- What is made of the recipes behind a failure does not show. -/
theorem foldl_make (functions : FunctionTable) (entries : List (String × Recipe)) :
    ∀ rules : NameMap Matcher,
    match prepareAll functions entries with
    | .ok made => entries.foldl (Making.make functions) ⟨rules, none⟩ =
        ⟨made.foldl (fun map (name, matcher) => map.set name matcher) rules, none⟩
    | .error problem =>
        (entries.foldl (Making.make functions) ⟨rules, none⟩).failure = some problem := by
  induction entries with
  | nil => exact fun _ => rfl
  | cons entry rest ih =>
      obtain ⟨name, recipe⟩ := entry
      intro rules
      rw [prepareAll, List.foldl_cons, Making.make]
      cases recipe.prepare functions with
      | error problem => exact failure_foldl_make _ rest rules
      | ok matcher =>
          have later := ih (rules.set name matcher)
          cases prepared : prepareAll functions rest with
          | error problem => rwa [prepared] at later
          | ok made => rwa [prepared] at later

theorem build_eq (builder : Builder) : builder.build =
    (prepareAll builder.functions builder.factories).map fun rules =>
      ⟨.ofList rules, builder.functions⟩ := by
  have made := foldl_make builder.functions builder.factories ∅
  unfold build
  cases prepared : prepareAll builder.functions builder.factories with
  | error problem =>
      rw [prepared] at made
      simp only [made]
      rfl
  | ok rules =>
      rw [prepared] at made
      simp only [made]
      rfl

/-- The names that are taken are those of the recipes, in the same order, and each is there once. -/
structure InStep (builder : Builder) : Prop where
  names : builder.names = builder.factories.map Prod.fst
  distinct : builder.names.Nodup

def adding (builder : Builder) (added : List (String × Recipe)) : Builder :=
  ⟨builder.names ++ added.map Prod.fst, builder.factories ++ added, builder.functions⟩

variable {builder next : Builder} {registry : Registry}

theorem contains_iff {name : String} : builder.contains name = true ↔ name ∈ builder.names :=
  List.contains_iff_mem

@[simp]
theorem adding_nil (builder : Builder) : builder.adding [] = builder := by simp [adding]

@[simp]
theorem adding_adding (builder : Builder) (first second : List (String × Recipe)) :
    (builder.adding first).adding second = builder.adding (first ++ second) := by
  simp [adding]

theorem inStep_start : start.InStep := ⟨rfl, List.nodup_nil⟩

theorem InStep.adding (inStep : builder.InStep) {added : List (String × Recipe)}
    (new : (builder.names ++ added.map Prod.fst).Nodup) : (builder.adding added).InStep := by
  refine ⟨?_, new⟩
  rw [Builder.adding, inStep.names, List.map_append]

theorem register_of_new {name : String} (recipe : Recipe) (new : name ∉ builder.names) :
    builder.register name recipe = .ok (builder.adding [(name, recipe)]) :=
  if_neg fun taken => new (contains_iff.mp taken)

theorem register_of_taken {name : String} {recipe : Recipe} (taken : name ∈ builder.names) :
    builder.register name recipe = .error (.duplicateRule name) :=
  if_pos (contains_iff.mpr taken)

theorem register_eq_ok_iff {name : String} {recipe : Recipe} :
    builder.register name recipe = .ok next ↔
      name ∉ builder.names ∧ next = builder.adding [(name, recipe)] := by
  by_cases taken : name ∈ builder.names
  · simp [register_of_taken taken, taken]
  · simp [register_of_new recipe taken, taken, eq_comm]

theorem registerAll_append {before after : List (String × Recipe)} {middle : Builder}
    (first : builder.registerAll before = (middle, none)) :
    builder.registerAll (before ++ after) = middle.registerAll after := by
  induction before generalizing builder with
  | nil =>
      cases first
      rfl
  | cons entry rest ih =>
      obtain ⟨name, recipe⟩ := entry
      rw [registerAll] at first
      rw [List.cons_append, registerAll]
      cases registered : builder.register name recipe with
      | error problem => simp [registered] at first
      | ok next =>
          rw [registered] at first
          exact ih first

theorem registerAll_append_of_error {before after : List (String × Recipe)} {problem : GrammarError}
    (stopped : builder.registerAll before = (next, some problem)) :
    builder.registerAll (before ++ after) = (next, some problem) := by
  induction before generalizing builder with
  | nil => cases stopped
  | cons entry rest ih =>
      obtain ⟨name, recipe⟩ := entry
      rw [registerAll] at stopped
      rw [List.cons_append, registerAll]
      cases registered : builder.register name recipe with
      | error found => rwa [registered] at stopped
      | ok middle =>
          rw [registered] at stopped
          exact ih stopped

theorem registerAll_of_nodup {added : List (String × Recipe)}
    (distinct : (builder.names ++ added.map Prod.fst).Nodup) :
    builder.registerAll added = (builder.adding added, none) := by
  induction added generalizing builder with
  | nil => rw [registerAll, adding_nil]
  | cons entry rest ih =>
      obtain ⟨name, recipe⟩ := entry
      have new : name ∉ builder.names := by
        intro known
        exact (List.nodup_append.mp distinct).2.2 name known name List.mem_cons_self rfl
      rw [registerAll, register_of_new recipe new]
      dsimp only
      rw [ih, adding_adding, List.singleton_append]
      rw [adding, List.append_assoc]
      exact distinct

/-- A name that is taken, by a rule of the builder or by an earlier one of those to be added, stops
the registrations there. -/
theorem registerAll_of_taken {before after : List (String × Recipe)} {name : String}
    {recipe : Recipe} (distinct : (builder.names ++ before.map Prod.fst).Nodup)
    (taken : name ∈ builder.names ++ before.map Prod.fst) :
    builder.registerAll (before ++ (name, recipe) :: after) =
      (builder.adding before, some (.duplicateRule name)) := by
  have known : name ∈ (builder.adding before).names := taken
  rw [registerAll_append (registerAll_of_nodup distinct), registerAll, register_of_taken known]

theorem InStep.registerAll_eq_iff (inStep : builder.InStep) {added : List (String × Recipe)} :
    builder.registerAll added = (next, none) ↔
      (builder.names ++ added.map Prod.fst).Nodup ∧ next = builder.adding added := by
  constructor
  · intro registered
    induction added generalizing builder with
    | nil =>
        cases registered
        exact ⟨by simpa using inStep.distinct, (adding_nil _).symm⟩
    | cons entry rest ih =>
        obtain ⟨name, recipe⟩ := entry
        rw [registerAll] at registered
        cases first : builder.register name recipe with
        | error problem => simp [first] at registered
        | ok middle =>
            simp only [first] at registered
            obtain ⟨new, same⟩ := register_eq_ok_iff.mp first
            subst same
            have single : (builder.names ++ [(name, recipe)].map Prod.fst).Nodup := by
              rw [List.map_singleton, ← List.concat_eq_append]
              exact inStep.distinct.concat new
            obtain ⟨distinct, same⟩ := ih (inStep.adding single) registered
            rw [adding_adding, List.singleton_append] at same
            rw [Builder.adding, List.append_assoc] at distinct
            exact ⟨distinct, same⟩
  · rintro ⟨distinct, same⟩
    rw [same, registerAll_of_nodup distinct]

theorem registerCompilers_eq {texts : List (FormKind × String)}
    {recognizers : List (FormKind × List Token)} (reads : Core.ReadAs texts recognizers)
    (builder : Builder) :
    builder.registerCompilers texts = builder.registerAll
      (recognizers.map fun (kind, recognizer) => (kind.compiler, .compiler kind recognizer)) := by
  induction reads generalizing builder with
  | nil => rfl
  | @cons written entry _ _ same _ ih =>
      obtain ⟨kind, text⟩ := written
      obtain ⟨_, recognizer⟩ := entry
      obtain ⟨rfl, reads⟩ := same
      dsimp only at reads
      simp only [registerCompilers, reads, List.map_cons, registerAll]
      cases builder.register kind.compiler (.compiler kind recognizer) with
      | error problem => rfl
      | ok next => exact ih next

theorem describeBy_eq {source : String} {definitions : List Definition} {texts : List (FormKind × String)}
    {recognizers : List (FormKind × List Token)} (defines : readDefinitions source = .ok definitions)
    (reads : Core.ReadAs texts recognizers) (builder : Builder) :
    builder.describeBy source texts = builder.registerAll (definitions.map recipeOf ++
      recognizers.map fun (kind, recognizer) => (kind.compiler, .compiler kind recognizer)) := by
  simp only [describeBy, defineAll, defines]
  cases registered : builder.registerAll (definitions.map recipeOf) with
  | mk next problem =>
  cases problem with
  | some problem => exact (registerAll_append_of_error registered).symm
  | none =>
      rw [registerAll_append registered]
      exact next.registerCompilers_eq reads

theorem describe_eq (builder : Builder) :
    builder.describe = builder.registerAll Core.selfDescription :=
  builder.describeBy_eq Core.readDefinitions_grammarText Core.recognizerTexts_readAs

theorem orError_bind {α : Type} (next : Builder) (further : Builder → Except GrammarError α) :
    (orError (next, none)).bind further = further next := rfl

theorem withCore_eq (builder : Builder) : builder.withCore = orError (builder.registerAll Core.recipes) := by
  rw [withCore, Core.recipes]
  cases registered : builder.registerAll Core.primitives with
  | mk next problem =>
  cases problem with
  | some problem =>
      rw [registerAll_append_of_error registered]
      rfl
  | none => rw [orError_bind, registerAll_append registered, describe_eq]

structure HasCore (builder : Builder) : Prop where
  inStep : builder.InStep
  recipes : ∀ entry ∈ Core.recipes, entry ∈ builder.factories

def CoreOr (allowed : Recipe → Prop) (builder : Builder) : Prop :=
  ∀ entry ∈ builder.factories, entry ∈ Core.recipes ∨ allowed entry.2

theorem CoreOr.imp {allowed permitted : Recipe → Prop} (all : builder.CoreOr allowed)
    (weaken : ∀ recipe, allowed recipe → permitted recipe) : builder.CoreOr permitted :=
  fun entry member => (all entry member).imp_right (weaken entry.2)

/-- Builders that hold the core rules, and besides them definitions only. -/
structure Described (builder : Builder) : Prop where
  core : builder.HasCore
  definitions : builder.CoreOr Recipe.IsDefinition

theorem foldlM_define_eq (definitions : List Definition) (builder : Builder) :
    definitions.foldlM define builder = orError (builder.registerAll (definitions.map recipeOf)) := by
  induction definitions generalizing builder with
  | nil => rfl
  | cons definition rest ih =>
      rw [List.foldlM_cons, List.map_cons, recipeOf, registerAll]
      unfold define
      cases builder.register definition.name (.body definition.body) with
      | error problem => rfl
      | ok next => exact ih next

theorem start_withFunctions_standard : start.withFunctions .standard = start := rfl

def core (functions : FunctionTable) : Builder :=
  (start.withFunctions functions).adding Core.recipes

theorem registerAll_core (functions : FunctionTable) :
    (start.withFunctions functions).registerAll Core.recipes = (core functions, none) :=
  registerAll_of_nodup Core.nodup_names

theorem withCore_start_eq (functions : FunctionTable) :
    (start.withFunctions functions).withCore = .ok (core functions) := by
  rw [withCore_eq, registerAll_core, orError]

theorem inStep_core (functions : FunctionTable) : (core functions).InStep :=
  ⟨rfl, Core.nodup_names⟩

theorem hasCore_core (functions : FunctionTable) : (core functions).HasCore :=
  ⟨inStep_core functions, fun _ member => member⟩

/-- The registry of a session is built from the core recipes and the definitions behind them. -/
theorem registryOf_eq (definitions : List Definition) : Session.registryOf definitions =
    (orError (start.registerAll (Core.recipes ++ definitions.map recipeOf))).bind build := by
  have added := withCore_start_eq .standard
  have registered := registerAll_core .standard
  rw [start_withFunctions_standard] at registered added
  rw [Session.registryOf, added, registerAll_append registered, ← foldlM_define_eq]
  rfl

structure Gathers (builder : Builder) (definitions : List Definition) : Prop where
  inStep : builder.InStep
  entries : builder.factories = Core.recipes ++ definitions.map recipeOf
  functions : builder.functions = .standard

theorem gathers_of_registerAll {definitions : List Definition}
    (registered : start.registerAll (Core.recipes ++ definitions.map recipeOf) = (builder, none)) :
    builder.Gathers definitions := by
  obtain ⟨distinct, same⟩ := inStep_start.registerAll_eq_iff.mp registered
  rw [same]
  exact ⟨inStep_start.adding distinct, rfl, rfl⟩

theorem exists_gathers_of_registryOf {definitions : List Definition}
    (opened : Session.registryOf definitions = .ok registry) :
    ∃ builder : Builder, builder.Gathers definitions ∧ builder.build = .ok registry := by
  rw [registryOf_eq] at opened
  cases registered : start.registerAll (Core.recipes ++ definitions.map recipeOf) with
  | mk builder problem =>
  rw [registered] at opened
  cases problem with
  | some problem => cases opened
  | none => exact ⟨builder, gathers_of_registerAll registered, opened⟩

theorem Gathers.described {definitions : List Definition} (gathers : builder.Gathers definitions) :
    builder.Described := by
  refine ⟨⟨gathers.inStep, fun entry member => ?_⟩, fun entry member => ?_⟩
  · rw [gathers.entries]
    exact List.mem_append_left _ member
  · rw [gathers.entries] at member
    refine (List.mem_append.mp member).imp_right fun defined => ?_
    obtain ⟨definition, _, same⟩ := List.mem_map.mp defined
    exact ⟨definition.body, same ▸ rfl⟩

theorem exists_of_registryOf {definitions : List Definition}
    (opened : Session.registryOf definitions = .ok registry) :
    ∃ builder : Builder, builder.Described ∧ builder.functions = .standard ∧
      builder.build = .ok registry := by
  obtain ⟨builder, gathers, built⟩ := exists_gathers_of_registryOf opened
  exact ⟨builder, gathers.described, gathers.functions, built⟩

theorem prepared_of_build (built : builder.build = .ok registry) :
    registry.functions = builder.functions ∧ ∃ rules,
      prepareAll builder.functions builder.factories = .ok rules ∧ registry.rules = .ofList rules := by
  rw [build_eq] at built
  obtain ⟨rules, prepared, same⟩ := Result.map_eq_ok_iff.mp built
  subst same
  exact ⟨rfl, rules, prepared, rfl⟩

theorem functions_of_build (built : builder.build = .ok registry) :
    registry.functions = builder.functions :=
  (prepared_of_build built).1

theorem exists_recipe_of_lookup (built : builder.build = .ok registry) {name : String}
    {matcher : Matcher} (known : registry.lookup name = some matcher) :
    ∃ recipe, (name, recipe) ∈ builder.factories ∧
      recipe.prepare registry.functions = .ok matcher := by
  obtain ⟨functions, rules, prepared, same⟩ := prepared_of_build built
  rw [Registry.lookup, same, NameMap.get?_eq_some_iff] at known
  rw [functions]
  exact (mem_iff_of_prepareAll prepared).mp (NameMap.mem_of_mem_ofList known)

section InStep

variable (inStep : builder.InStep) (built : builder.build = .ok registry)

include inStep built

theorem InStep.rules_of_build :
    prepareAll builder.functions builder.factories = .ok registry.rules.entries := by
  obtain ⟨_, rules, prepared, same⟩ := prepared_of_build built
  have distinct : (rules.map Prod.fst).Nodup := by
    rw [names_of_prepareAll prepared, ← inStep.names]
    exact inStep.distinct
  rw [same, NameMap.entries_ofList distinct, prepared]

theorem InStep.names_of_build : registry.rules.names = builder.names :=
  (names_of_prepareAll (inStep.rules_of_build built)).trans inStep.names.symm

theorem InStep.lookup_eq_some_iff {name : String} {matcher : Matcher} :
    registry.lookup name = some matcher ↔ ∃ recipe, (name, recipe) ∈ builder.factories ∧
      recipe.prepare registry.functions = .ok matcher := by
  rw [Registry.lookup, NameMap.get?_eq_some_iff, functions_of_build built]
  exact mem_iff_of_prepareAll (inStep.rules_of_build built)

theorem InStep.exists_prepared {name : String} {recipe : Recipe}
    (member : (name, recipe) ∈ builder.factories) :
    ∃ matcher, recipe.prepare registry.functions = .ok matcher ∧
      registry.lookup name = some matcher := by
  obtain ⟨matcher, made⟩ := exists_prepareAll_iff.mp ⟨_, inStep.rules_of_build built⟩ _ member
  rw [← functions_of_build built] at made
  exact ⟨matcher, made, (inStep.lookup_eq_some_iff built).mpr ⟨recipe, member, made⟩⟩

theorem InStep.size_rules : registry.rules.size = builder.factories.length :=
  (prepareAll_eq_ok_iff.mp (inStep.rules_of_build built)).length_eq.symm

end InStep

end Builder

end TokenGrammar
