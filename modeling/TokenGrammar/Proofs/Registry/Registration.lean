import TokenGrammar.Proofs.Session.Loading
/-!
Filling a builder step by step. A step registers the rules that it asks for up to the first whose name is
taken, and a registry is built from what has been registered, with the functions that are in force then.
Failed steps leave nothing else behind, and it does not matter when the functions were put in.
-/

namespace TokenGrammar

namespace Recipe

def source? : Recipe → Option (List Token)
  | .ready _ => none
  | .body tokens => some tokens
  | .compiler _ recognizer => some recognizer

variable {functions : FunctionTable} {recipe : Recipe}

/-- The body of a recipe, if it has one, compiles. -/
def Compiles (functions : FunctionTable) (recipe : Recipe) : Prop :=
  ∀ body, recipe.source? = some body → ∃ matcher, compileBody functions body = .ok matcher

/-- The matcher that a recipe stands for with some functions. -/
inductive Makes (functions : FunctionTable) : Recipe → Matcher → Prop
  | ready (matcher : Matcher) : Makes functions (.ready matcher) matcher
  | body {tokens : List Token} {matcher : Matcher}
      (compiled : compileBody functions tokens = .ok matcher) : Makes functions (.body tokens) matcher
  | compiler {kind : FormKind} {recognizer : List Token} {matcher : Matcher}
      (compiled : compileBody functions recognizer = .ok matcher) :
      Makes functions (.compiler kind recognizer) (.compiler kind matcher)

theorem makes_of_prepare {matcher : Matcher} (made : recipe.prepare functions = .ok matcher) :
    recipe.Makes functions matcher := by
  cases recipe with
  | ready own =>
      cases made
      exact .ready matcher
  | body tokens => exact .body made
  | compiler kind recognizer =>
      obtain ⟨inner, compiled, rfl⟩ := Result.map_eq_ok_iff.mp made
      exact .compiler compiled

theorem exists_prepare_iff :
    (∃ matcher, recipe.prepare functions = .ok matcher) ↔ recipe.Compiles functions := by
  cases recipe <;> simp [prepare, Compiles, source?, Result.map_eq_ok_iff]

theorem prepare_eq_error_iff {problem : GrammarError} : recipe.prepare functions = .error problem ↔
    ∃ body, recipe.source? = some body ∧ compileBody functions body = .error problem := by
  cases recipe <;> simp [prepare, source?, Result.map_eq_error_iff]

end Recipe

namespace Builder

inductive Request where
  | primitives
  | selfDescription
  | define (definition : Definition)
  | ready (name : String) (matcher : Matcher)
  | defineAll (source : String)
  | withFunctions (functions : FunctionTable)

def orKept (builder : Builder) : Except GrammarError Builder → Builder × Option GrammarError
  | .ok next => (next, none)
  | .error problem => (builder, some problem)

def after (builder : Builder) : Request → Builder × Option GrammarError
  | .primitives => builder.registerAll Core.primitives
  | .selfDescription => builder.describe
  | .define definition => builder.orKept (builder.define definition)
  | .ready name matcher => builder.orKept (builder.register name (.ready matcher))
  | .defineAll source =>
      match builder.defineAll source with
      | (next, .ok _) => (next, none)
      | (next, .error problem) => (next, some problem)
  | .withFunctions functions => (builder.withFunctions functions, none)

def afterAll (builder : Builder) (requests : List Request) : Builder :=
  requests.foldl (fun builder request => (builder.after request).1) builder

namespace Request

def functions? : Request → Option FunctionTable
  | .withFunctions functions => some functions
  | _ => none

def functionsIn (requests : List Request) : FunctionTable :=
  (requests.reverse.findSome? functions?).getD .standard

/-- The rules that a request asks for, in their order. -/
inductive Asks : Request → List (String × Recipe) → Prop
  | primitives : Asks .primitives Core.primitives
  | selfDescription : Asks .selfDescription Core.selfDescription
  | define (definition : Definition) : Asks (.define definition) [recipeOf definition]
  | ready (name : String) (matcher : Matcher) : Asks (.ready name matcher) [(name, .ready matcher)]
  | defineAll {source : String} {definitions : List Definition} (defines : Defines source definitions) :
      Asks (.defineAll source) (definitions.map recipeOf)

/-- Which rules a request registers while some names are taken, and its error if it fails: all that it asks
for if their names are new, else those before the first whose name is not. -/
inductive Registers (taken : List String) :
    Request → List (String × Recipe) → Option GrammarError → Prop
  | withFunctions (functions : FunctionTable) : Registers taken (.withFunctions functions) [] none
  | undefined {source : String} {problem : GrammarError} (undefined : Undefined source problem) :
      Registers taken (.defineAll source) [] (some problem)
  | all {request : Request} {asked : List (String × Recipe)} (asks : request.Asks asked)
      (new : (taken ++ asked.map Prod.fst).Nodup) : Registers taken request asked none
  | before {request : Request} {before after : List (String × Recipe)} {name : String} {recipe : Recipe}
      (asks : request.Asks (before ++ (name, recipe) :: after))
      (new : (taken ++ before.map Prod.fst).Nodup) (known : name ∈ taken ++ before.map Prod.fst) :
      Registers taken request before (some (.duplicateRule name))

end Request

/-- The registrations that have succeeded, in their order, while a builder was asked for rules. -/
inductive Logs : List Request → List (String × Recipe) → Prop
  | start : Logs [] []
  | after {requests : List Request} {log added : List (String × Recipe)} {request : Request}
      {problem : Option GrammarError} (logged : Logs requests log)
      (registers : request.Registers (log.map Prod.fst) added problem) :
      Logs (requests ++ [request]) (log ++ added)

section Requests

variable {builder next : Builder} {request : Request} {asked added : List (String × Recipe)}
  {problem : Option GrammarError}

theorem Request.Asks.functions?_eq_none (asks : request.Asks added) : request.functions? = none := by
  cases asks <;> rfl

theorem after_of_asks (asks : request.Asks added) : builder.after request = builder.registerAll added := by
  cases asks with
  | primitives => rfl
  | selfDescription => exact builder.describe_eq
  | define definition =>
      simp only [after, define, recipeOf, registerAll]
      cases builder.register definition.name (.body definition.body) <;> rfl
  | ready name matcher =>
      simp only [after, registerAll]
      cases builder.register name (.ready matcher) <;> rfl
  | @defineAll source definitions defines =>
      simp only [after, defineAll, readDefinitions_eq_ok_iff.mpr defines]
      rcases builder.registerAll (definitions.map recipeOf) with ⟨next, _ | problem⟩ <;> rfl

def taking (builder : Builder) (request : Request) (added : List (String × Recipe)) : Builder :=
  (builder.adding added).withFunctions (request.functions?.getD builder.functions)

theorem taking_of_asks (asks : request.Asks asked) (added : List (String × Recipe)) :
    builder.taking request added = builder.adding added := by
  rw [taking, asks.functions?_eq_none]
  rfl

theorem after_of_registers (registers : request.Registers builder.names added problem) :
    builder.after request = (builder.taking request added, problem) := by
  cases registers with
  | withFunctions functions => rw [taking, adding_nil, after, Request.functions?, Option.getD_some]
  | undefined undefined =>
      simp only [after, defineAll, readDefinitions_of_undefined undefined]
      rw [taking, adding_nil]
      rfl
  | all asks new => rw [after_of_asks asks, registerAll_of_nodup new, taking_of_asks asks]
  | before asks new known => rw [after_of_asks asks, registerAll_of_taken new known, taking_of_asks asks]

theorem Request.Registers.nodup {taken : List String} (distinct : taken.Nodup)
    (registers : request.Registers taken added problem) : (taken ++ added.map Prod.fst).Nodup := by
  cases registers with
  | withFunctions => simpa using distinct
  | undefined => simpa using distinct
  | all _ new => exact new
  | before _ new => exact new

theorem mem_of_not_nodup_concat {names : List String} {name : String} (distinct : names.Nodup)
    (again : ¬ (names ++ [name]).Nodup) : name ∈ names := by
  rw [List.nodup_append_comm, List.singleton_append, List.nodup_cons] at again
  by_contra free
  exact again ⟨free, distinct⟩

theorem exists_registers_of_asks {taken : List String} (distinct : taken.Nodup)
    {asked : List (String × Recipe)} (asks : request.Asks asked) :
    ∃ added problem, request.Registers taken added problem := by
  by_cases new : (taken ++ asked.map Prod.fst).Nodup
  · exact ⟨asked, none, .all asks new⟩
  · obtain ⟨before, ⟨name, recipe⟩, after, rfl, earlier, stops⟩ :=
      @Result.exists_first_failure _ (fun front => (taken ++ front.map Prod.fst).Nodup) asked
        (by simpa using distinct) new
    rw [List.map_append, ← List.append_assoc] at stops
    exact ⟨before, _, .before asks earlier (mem_of_not_nodup_concat earlier stops)⟩

theorem exists_registers {taken : List String} (distinct : taken.Nodup) (request : Request) :
    ∃ added problem, request.Registers taken added problem := by
  cases request with
  | primitives => exact exists_registers_of_asks distinct .primitives
  | selfDescription => exact exists_registers_of_asks distinct .selfDescription
  | define definition => exact exists_registers_of_asks distinct (.define definition)
  | ready name matcher => exact exists_registers_of_asks distinct (.ready name matcher)
  | defineAll source =>
      rcases defines_or_undefined source with ⟨definitions, defines⟩ | ⟨problem, undefined⟩
      · exact exists_registers_of_asks distinct (.defineAll defines)
      · exact ⟨[], _, .undefined undefined⟩
  | withFunctions functions => exact ⟨[], none, .withFunctions functions⟩

theorem InStep.registers_after (inStep : builder.InStep) (request : Request) : ∃ added,
    request.Registers builder.names added (builder.after request).2 ∧
      (builder.after request).1 = builder.taking request added := by
  obtain ⟨added, problem, registers⟩ := exists_registers inStep.distinct request
  rw [after_of_registers registers]
  exact ⟨added, registers, rfl⟩

/-- No request takes the names and the recipes out of step. -/
theorem InStep.after (inStep : builder.InStep) (request : Request) :
    (builder.after request).1.InStep := by
  obtain ⟨added, registers, same⟩ := inStep.registers_after request
  obtain ⟨names, distinct⟩ := inStep.adding (registers.nodup inStep.distinct)
  rw [same]
  exact ⟨names, distinct⟩

theorem afterAll_concat (builder : Builder) (requests : List Request) (request : Request) :
    builder.afterAll (requests ++ [request]) = ((builder.afterAll requests).after request).1 := by
  simp [afterAll]

theorem inStep_afterAll (requests : List Request) : (start.afterAll requests).InStep := by
  induction requests using List.reverseRecOn with
  | nil => exact inStep_start
  | append_singleton requests request ih =>
      rw [afterAll_concat]
      exact ih.after request

theorem Logs.nodup {requests : List Request} {log : List (String × Recipe)}
    (logged : Logs requests log) : (log.map Prod.fst).Nodup := by
  induction logged with
  | start => exact List.nodup_nil
  | after _ registers ih =>
      rw [List.map_append]
      exact registers.nodup ih

theorem exists_logs (requests : List Request) : ∃ log, Logs requests log := by
  induction requests using List.reverseRecOn with
  | nil => exact ⟨[], .start⟩
  | append_singleton requests request ih =>
      obtain ⟨log, logged⟩ := ih
      obtain ⟨added, problem, registers⟩ := exists_registers logged.nodup request
      exact ⟨log ++ added, logged.after registers⟩

theorem functionsIn_concat (requests : List Request) (request : Request) :
    Request.functionsIn (requests ++ [request]) =
      request.functions?.getD (Request.functionsIn requests) := by
  rw [Request.functionsIn, Request.functionsIn]
  cases known : request.functions? <;> simp [known]

theorem afterAll_of_logs {requests : List Request} {log : List (String × Recipe)}
    (logged : Logs requests log) :
    start.afterAll requests = (start.adding log).withFunctions (Request.functionsIn requests) := by
  induction logged with
  | start => rfl
  | @after requests log added request problem logged registers ih =>
      have names : log.map Prod.fst = (start.afterAll requests).names := by rw [ih]; rfl
      rw [names] at registers
      rw [afterAll_concat, after_of_registers registers, taking, functionsIn_concat, ih,
        ← adding_adding]
      rfl

theorem factories_of_logs {requests : List Request} {log : List (String × Recipe)}
    (logged : Logs requests log) : (start.afterAll requests).factories = log := by
  rw [afterAll_of_logs logged]
  rfl

theorem Logs.filter {requests : List Request} {log : List (String × Recipe)}
    (logged : Logs requests log) : Logs (requests.filter (·.functions?.isNone)) log := by
  induction logged with
  | start => exact .start
  | @after requests log added request problem logged registers ih =>
      rw [List.filter_append, List.filter_singleton]
      cases known : request.functions? with
      | none => exact ih.after registers
      | some functions =>
          have nothing : added = [] := by
            cases registers with
            | withFunctions => rfl
            | undefined => rfl
            | all asks => simp [asks.functions?_eq_none] at known
            | before asks => simp [asks.functions?_eq_none] at known
          rw [nothing, List.append_nil]
          simpa using ih

theorem afterAll_eq_of_filter {requests others : List Request}
    (rules : others.filter (·.functions?.isNone) = requests.filter (·.functions?.isNone))
    (functions : Request.functionsIn others = Request.functionsIn requests) :
    start.afterAll others = start.afterAll requests := by
  obtain ⟨log, logged⟩ := exists_logs requests
  obtain ⟨other, otherLogged⟩ := exists_logs others
  have same : other = log := by
    rw [← factories_of_logs otherLogged.filter, rules, factories_of_logs logged.filter]
  rw [afterAll_of_logs logged, afterAll_of_logs otherLogged, same, functions]

theorem Request.Asks.eq {asked others : List (String × Recipe)} (asks : request.Asks asked)
    (again : request.Asks others) : asked = others := by
  cases asks with
  | defineAll defines =>
      cases again with
      | defineAll redefines =>
          have found := readDefinitions_eq_ok_iff.mpr defines
          rw [readDefinitions_eq_ok_iff.mpr redefines] at found
          rw [Except.ok.inj found]
  | _ =>
      cases again
      rfl

theorem InStep.after_eq_of_error (inStep : builder.InStep) {rule : String × Recipe}
    (asks : request.Asks [rule]) {problem : GrammarError}
    (failed : builder.after request = (next, some problem)) : next = builder := by
  obtain ⟨added, registers, same⟩ := inStep.registers_after request
  rw [failed] at registers same
  -- One rule is asked for and its name is taken: there is nothing before it that could be registered.
  have nothing : added = [] := by
    cases registers with
    | undefined => rfl
    | before asksMore =>
        have equal := asks.eq asksMore
        cases added with
        | nil => rfl
        | cons first others => simp at equal
  rw [nothing, taking_of_asks asks, adding_nil] at same
  exact same

end Requests

/-- What building comes to, with these functions and after these registrations. -/
inductive BuildsFrom (functions : FunctionTable) (log : List (String × Recipe)) :
    Except GrammarError Registry → Prop
  | rejected {before after : List (String × Recipe)} {name : String} {recipe : Recipe}
      {body : List Token} {problem : GrammarError} (order : log = before ++ (name, recipe) :: after)
      (earlier : ∀ rule ∈ before, rule.2.Compiles functions) (source : recipe.source? = some body)
      (stopped : compileBody functions body = .error problem) :
      BuildsFrom functions log (.error (.inRule name problem))
  | built {registry : Registry} (compile : ∀ rule ∈ log, rule.2.Compiles functions)
      (names : registry.rules.names = log.map Prod.fst) (force : registry.functions = functions)
      (rules : ∀ name recipe, (name, recipe) ∈ log → ∃ matcher,
        recipe.Makes functions matcher ∧ registry.lookup name = some matcher) :
      BuildsFrom functions log (.ok registry)

theorem InStep.buildsFrom_build {builder : Builder} (inStep : builder.InStep) :
    BuildsFrom builder.functions builder.factories builder.build := by
  rw [build_eq]
  by_cases compile : ∀ rule ∈ builder.factories, rule.2.Compiles builder.functions
  · obtain ⟨rules, prepared⟩ := exists_prepareAll_iff.mpr fun rule member =>
      Recipe.exists_prepare_iff.mpr (compile rule member)
    have built : builder.build = .ok ⟨.ofList rules, builder.functions⟩ := by
      rw [build_eq, prepared]
      rfl
    rw [← build_eq, built]
    refine .built compile ((inStep.names_of_build built).trans inStep.names) rfl
      fun name recipe member => ?_
    obtain ⟨matcher, made, known⟩ := inStep.exists_prepared built member
    exact ⟨matcher, Recipe.makes_of_prepare made, known⟩
  · obtain ⟨before, ⟨name, recipe⟩, after, order, earlier, refused⟩ := Result.exists_first_not compile
    cases result : recipe.prepare builder.functions with
    | ok matcher => exact absurd (Recipe.exists_prepare_iff.mp ⟨matcher, result⟩) refused
    | error problem =>
        obtain ⟨body, source, stopped⟩ := Recipe.prepare_eq_error_iff.mp result
        have failed := @prepareAll_of_rejected _ _ after name _ _
          (fun rule member => Recipe.exists_prepare_iff.mpr (earlier rule member)) result
        rw [order, failed]
        exact .rejected rfl earlier source stopped

/-- Whatever a builder is asked for, from its start and with any failures on the way: its names stay in step
with its recipes, and both are those whose registration has succeeded; a request that fails registers the
rules before the first whose name is taken, so that one for a single rule changes nothing, and none for a
text that does not define; building takes the rules in order with the functions that are in force at the
end, whenever they were put in, and gives every name the matcher that its recipe stands for. -/
theorem logs_and_buildsFrom_of_requests (requests : List Request) : ∃ log,
    (∀ other, Logs requests other ↔ other = log) ∧ (log.map Prod.fst).Nodup ∧
    (start.afterAll requests).InStep ∧ (start.afterAll requests).factories = log ∧
    (∀ name, (start.afterAll requests).contains name = true ↔ name ∈ log.map Prod.fst) ∧
    (∀ request next problem, (start.afterAll requests).after request = (next, problem) →
      ∃ added, request.Registers (log.map Prod.fst) added problem ∧
        next = start.afterAll (requests ++ [request]) ∧
        Logs (requests ++ [request]) (log ++ added)) ∧
    (∀ request rule next problem, request.Asks [rule] →
      (start.afterAll requests).after request = (next, some problem) →
        next = start.afterAll requests) ∧
    BuildsFrom (Request.functionsIn requests) log (start.afterAll requests).build ∧
    (∀ others, others.filter (·.functions?.isNone) = requests.filter (·.functions?.isNone) →
      Request.functionsIn others = Request.functionsIn requests →
        (start.afterAll others).build = (start.afterAll requests).build) := by
  obtain ⟨log, logged⟩ := exists_logs requests
  have inStep := inStep_afterAll requests
  have factories := factories_of_logs logged
  have names : (start.afterAll requests).names = log.map Prod.fst := by rw [inStep.names, factories]
  refine ⟨log, fun other => ?_, logged.nodup, inStep, factories, fun name => ?_, ?_,
    fun request rule next problem asks failed => inStep.after_eq_of_error asks failed, ?_, ?_⟩
  · constructor
    · intro again
      rw [← factories, factories_of_logs again]
    · rintro rfl
      exact logged
  · rw [contains_iff, names]
  · intro request next problem result
    obtain ⟨added, registers, _⟩ := inStep.registers_after request
    rw [result, names] at registers
    exact ⟨added, registers, by rw [afterAll_concat, result], logged.after registers⟩
  · have built := inStep.buildsFrom_build
    have force : (start.afterAll requests).functions = Request.functionsIn requests := by
      rw [afterAll_of_logs logged]
      rfl
    rwa [force, factories] at built
  · intro others rules functions
    rw [afterAll_eq_of_filter rules functions]

/-- The second text stops at a name that is taken. Its first rule stays, a third registration of that name
changes nothing, and a body that does not compile is found when all is built, with functions that may as
well have been put in before. Without it every name gets the matcher that was registered for it. -/
theorem logs_and_buildsFrom_of_requests_stopped :
    let rules := [.ready "one" (.literal (.integer 1)), .define ⟨"wrong", [.symbol "+"]⟩,
      .defineAll "(rule two [1]) (rule one [2]) (rule three [3])"]
    let requests := rules ++ [.withFunctions ∅]
    let sound := [.ready "one" (.literal (.integer 1)), .define ⟨"two", [.symbol "one"]⟩]
    (∃ log, Logs requests log ∧ log.map Prod.fst = ["one", "wrong", "two"] ∧
      (start.afterAll requests).contains "three" = false ∧
      ((start.afterAll requests).after (.ready "two" .endOfInput)).1 = start.afterAll requests ∧
      (∃ problem : GrammarError, BuildsFrom ∅ log (.error (.inRule "wrong" problem)) ∧
        problem.message = "Misplaced marker: +") ∧
      (start.afterAll (.withFunctions ∅ :: rules)).build = (start.afterAll requests).build) ∧
    ∃ registry, (start.afterAll sound).build = .ok registry ∧
      registry.rules.names = ["one", "two"] ∧
      registry.lookup "one" = some (.literal (.integer 1)) ∧
      registry.lookup "two" = some (.rule "one") := by
  intro rules requests sound
  refine ⟨?_, ?_⟩
  · have names : (start.afterAll requests).names = ["one", "wrong", "two"] := by decide +kernel
    have again : ((start.afterAll requests).after (.ready "two" .endOfInput)).2 =
        some (.duplicateRule "two") := by
      rw [after, register_of_taken (by rw [names]; decide)]
      rfl
    obtain ⟨log, logs, _, inStep, factories, contains, _, single, builds, anyTime⟩ :=
      logs_and_buildsFrom_of_requests requests
    have listed : log.map Prod.fst = ["one", "wrong", "two"] := by
      rw [← factories, ← inStep.names, names]
    have wrong : (Result.problem? (start.afterAll requests).build).any (fun
        | .inRule name problem => name == "wrong" && problem.message == "Misplaced marker: +"
        | _ => false) = true := by decide +kernel
    refine ⟨log, (logs log).mpr rfl, listed, ?_, ?_, ?_, anyTime _ rfl rfl⟩
    · rw [Bool.eq_false_iff, ne_eq, contains, listed]
      decide
    · exact single _ _ _ _ (.ready "two" .endOfInput) (Prod.ext rfl again)
    · obtain ⟨problem, failed, told⟩ := Result.exists_of_any_problem wrong
      split at told
      next name inner =>
        obtain ⟨named, message⟩ := Bool.and_eq_true_iff.mp told
        rw [failed, beq_iff_eq.mp named] at builds
        exact ⟨inner, builds, beq_iff_eq.mp message⟩
      next => cases told
  · obtain ⟨log, _, _, _, factories, _, _, _, builds, _⟩ := logs_and_buildsFrom_of_requests sound
    have succeeds : (start.afterAll sound).build.toOption.any (fun _ => true) = true := by
      decide +kernel
    obtain ⟨registry, built, _⟩ := Result.exists_of_any succeeds
    subst factories
    rw [built] at builds
    cases builds with
    | built _ names _ rules =>
        refine ⟨registry, built, names, ?_, ?_⟩
        · obtain ⟨_, made, known⟩ := rules "one" _ (.head _)
          cases made
          exact known
        · obtain ⟨_, made, known⟩ := rules "two" _ (.tail _ (.head _))
          cases made with
          | body compiled =>
              have same : compileBody .standard [.symbol "one"] = .ok (.rule "one") := by with_unfolding_all rfl
              rw [known, ← Except.ok.inj (compiled.symm.trans same)]

end Builder

end TokenGrammar
