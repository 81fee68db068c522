import TokenGrammar.Proofs.Registry.Faithful
import TokenGrammar.Proofs.Registry.Termination
/-!
The rules of a registry compile what direct compilation compiles. The grammar of bodies recognises forms by
the core rules alone, and its compilers call each other on parts of a form; level by level they come to
the matcher that walking over the form makes, or to no matcher if there is none.
-/

namespace TokenGrammar

namespace Core

theorem compilerOf_mem_matchers (kind : FormKind) : compilerOf kind ∈ matchers := by
  refine List.mem_append_right _ (List.mem_append_right _ (List.mem_map_of_mem ?_))
  cases kind with
  | quantified quantifier => cases quantifier <;> simp [recognizers]
  | _ => simp [recognizers]

end Core

namespace Builder

variable {builder : Builder} {registry : Registry}

section CoreRules

variable (core : builder.HasCore) (built : builder.build = .ok registry)
  (unquoted : registry.functions.contains "quote" = false)

include core built unquoted

theorem HasCore.contains_of_asks {name : String} (asks : Generation.Asks name) :
    registry.contains name = true := by
  obtain ⟨matcher, member⟩ := Core.exists_matcher_of_mem_names (Core.mem_names_of_asks asks)
  exact Option.isSome_of_eq_some (core.lookup_eq built unquoted member)

/-- At a level a compiler may ask only for rules one level further down. -/
theorem HasCore.approximates_compiler (level : Nat) (kind : FormKind) :
    (registry.run level (.rule kind.compiler)).Approximates
      (Step.compiling registry.functions kind) := by
  induction level generalizing kind with
  | zero => exact Step.unfinished_approximates _
  | succ level ih =>
      have known := core.lookup_eq built unquoted (Core.compilerOf_mem_matchers kind)
      intro form bindings
      rw [Registry.run_rule_of_lookup known]
      cases level with
      | zero => exact Outcome.unfinished_approximates _
      | succ level =>
          have faithful : (registry.invokeAt level).Faithful registry.functions :=
            ⟨fun form => core.measuredAt_element built unquoted (level + 1) form ∅,
              fun form => core.approximates_binding built unquoted (level + 1) form ∅,
              fun kind form => ih kind form ∅⟩
          have cutting : registry.contains Generation.elementRule = true ∧
              registry.contains Generation.bindingRule = true :=
            ⟨core.contains_of_asks built unquoted (.inl rfl),
              core.contains_of_asks built unquoted (.inr (.inl rfl))⟩
          rw [Registry.run_compiler]
          rcases core.measuredAt_recognizer built unquoted kind level form bindings with cut | same
          · rw [cut]
            exact .inl rfl
          · rw [same]
            unfold Step.compiling Step.measured FormKind.recognition
            by_cases own : FormKind.classify registry.functions form = some kind
            · rw [if_pos own, if_pos own]
              dsimp only [Outcome.bind, Success.front]
              rw [List.take_length]
              exact (Generation.formMatcher_approximates unquoted faithful cutting own).bind
                fun _ => Outcome.approximates_refl _
            · rw [if_neg own, if_neg own]
              exact .inr rfl

end CoreRules

theorem Described.invoke_compiler (described : builder.Described)
    (built : builder.build = .ok registry)
    (unquoted : registry.functions.contains "quote" = false) (kind : FormKind)
    (form : List Token) (bindings : Bindings) :
    registry.invoke kind.compiler form bindings =
      Step.compiling registry.functions kind form bindings := by
  have same := described.invoke_eq built unquoted (Core.mem_names_of_asks (.inr (.inr ⟨kind, rfl⟩)))
    fun level => described.core.approximates_compiler built unquoted level kind
  exact congrFun (congrFun same form) bindings

end Builder

namespace Step

theorem compiling_eq_succeeded_iff {functions : FunctionTable} {kind : FormKind}
    {form : List Token} {bindings : Bindings} {found : Success} :
    compiling functions kind form bindings = .succeeded found ↔
      ∃ matcher, FormKind.classify functions form = some kind ∧
        compileForm functions form = .ok matcher ∧
        found = ⟨.compiled matcher, bindings, form.length⟩ := by
  unfold compiling
  split
  next own =>
      simp only [Outcome.bind_eq_succeeded_iff, Outcome.ofExcept_eq_succeeded_iff,
        Outcome.succeeded.injEq]
      constructor
      · rintro ⟨matcher, made, same⟩
        exact ⟨matcher, own, made, same.symm⟩
      · rintro ⟨matcher, _, made, same⟩
        exact ⟨matcher, made, same.symm⟩
  next other =>
      constructor
      · intro impossible
        cases impossible
      · rintro ⟨_, own, _⟩
        exact absurd own other

theorem compiling_vector (functions : FunctionTable) (body : List Token) (bindings : Bindings) :
    compiling functions .group [.vector body] bindings =
      (Outcome.ofExcept (compileBody functions body)).bind fun matcher =>
        .succeeded ⟨.compiled matcher, bindings, 1⟩ := by
  have meaning : Atom.ofToken? functions (.vector body) = some (.group body) := rfl
  have own : FormKind.classify functions [.vector body] = some .group :=
    FormKind.classify_eq_some_iff.mpr (.atom (FormKind.accepts_iff.mpr ⟨_, meaning, rfl⟩))
  rw [compiling, if_pos own, compileForm_singleton meaning]
  rfl

end Step

namespace Registry

/-- Both phases of compilation agree: the compiler of a kind succeeds exactly on the forms of that kind
that compile directly, takes them as a whole, and gives the same matcher. -/
theorem compilers_agree {builder : Builder} {registry : Registry}
    (described : builder.Described) (built : builder.build = .ok registry)
    (unquoted : registry.functions.contains "quote" = false) :
    (∀ (kind : FormKind) (form : List Token) (bindings : Bindings),
      registry.invoke kind.compiler form bindings ≠ .unfinished ∧
      ∀ found, registry.invoke kind.compiler form bindings = .succeeded found ↔
        ∃ matcher, FormKind.classify registry.functions form = some kind ∧
          compileForm registry.functions form = .ok matcher ∧
          found = ⟨.compiled matcher, bindings, form.length⟩) ∧
    ∀ body, registry.compile body ≠ .unfinished ∧
      ∀ matcher, registry.compile body = .succeeded matcher ↔
        compileBody registry.functions body = .ok matcher := by
  have direct := described.invoke_compiler built unquoted
  constructor
  · intro kind form bindings
    rw [direct]
    refine ⟨?_, fun found => Step.compiling_eq_succeeded_iff⟩
    unfold Step.compiling
    split
    · cases compileForm registry.functions form <;> simp [Outcome.ofExcept, Outcome.bind]
    · simp
  · intro body
    unfold compile
    rw [direct, Step.compiling_vector]
    cases compileBody registry.functions body with
    | error problem => simp [Outcome.ofExcept, Outcome.bind]
    | ok made => simp [Outcome.ofExcept, Outcome.bind, Success.compiled?, Outcome.ofOption]

/-- A negated and repeated reference is compiled by the rules of a session. -/
theorem compilers_agree_repeated : ∃ (builder : Builder) (registry : Registry),
    builder.Described ∧ builder.build = .ok registry ∧
      registry.functions.contains "quote" = false ∧
      registry.invoke "zero-or-more" [.symbol "--", .symbol "pair", .symbol "*"] ∅ =
        .succeeded ⟨.compiled (.repetition .zeroOrMore (.negation (.rule "pair"))), ∅, 3⟩ := by
  have computed : (match Session.registryOf [⟨"pair", [.symbol "symbol", .symbol "number"]⟩] with
      | .ok registry => !registry.functions.contains "quote"
      | .error _ => false) = true := by
    rw [Builder.registryOf_eq]
    decide +kernel
  split at computed
  next registry opened =>
    obtain ⟨builder, described, _, built⟩ := Builder.exists_of_registryOf opened
    have unquoted : registry.functions.contains "quote" = false := by
      simpa using computed
    refine ⟨builder, registry, described, built, unquoted, ?_⟩
    exact (((compilers_agree described built unquoted).1 (.quantified .zeroOrMore) _ _).2 _).mpr
      ⟨_, rfl, rfl, rfl⟩
  next => cases computed

end Registry

end TokenGrammar
