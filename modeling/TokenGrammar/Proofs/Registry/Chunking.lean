import TokenGrammar.Proofs.Registry.Recognition
import TokenGrammar.Proofs.Registry.Termination
/-!
Cutting bodies by rules. The rules that a registry has for the parts of bodies take just the tokens from the
front of a sequence that cutting it directly takes, whatever stands behind them. They leave the bindings as
they are, but for the name that a binding gives.
-/

namespace TokenGrammar

namespace Step

/-- The step comes to its end, and succeeds with what is specified and with nothing else. -/
def SucceedsExactly (step : Step) (input : List Token) (bindings : Bindings)
    (specified : Success → Prop) : Prop :=
  step input bindings ≠ .unfinished ∧
    ∀ found, step input bindings = .succeeded found ↔ specified found

variable {step : Step} {input : List Token} {bindings : Bindings} {specified : Success → Prop}

theorem succeedsExactly_of_succeeded {only : Success}
    (succeeded : step input bindings = .succeeded only)
    (same : ∀ found, specified found ↔ found = only) :
    step.SucceedsExactly input bindings specified := by
  refine ⟨by simp [succeeded], fun found => ?_⟩
  rw [succeeded, Outcome.succeeded.injEq, same, eq_comm]

theorem succeedsExactly_of_failed (failed : step input bindings = .failed)
    (nothing : ∀ found, ¬ specified found) : step.SucceedsExactly input bindings specified :=
  ⟨by simp [failed], fun found => iff_of_false (by simp [failed]) (nothing found)⟩

theorem SucceedsExactly.congr {other : Success → Prop}
    (exactly : step.SucceedsExactly input bindings specified)
    (same : ∀ found, specified found ↔ other found) : step.SucceedsExactly input bindings other :=
  ⟨exactly.1, fun found => (exactly.2 found).trans (same found)⟩

theorem succeedsExactly_measured (measure : Measure) (input : List Token) (bindings : Bindings) :
    (measured measure).SucceedsExactly input bindings fun found =>
      ∃ count, measure input = some count ∧ found = .front input count bindings := by
  cases taken : measure input with
  | none =>
      refine succeedsExactly_of_failed (by simp [measured, taken]) ?_
      rintro found ⟨count, impossible, _⟩
      cases impossible
  | some count =>
      have succeeded : measured measure input bindings = .succeeded (.front input count bindings) := by
        simp [measured, taken]
      exact succeedsExactly_of_succeeded succeeded (by simp)

theorem succeedsExactly_binding (accepts : Token → Bool) (input : List Token) (bindings : Bindings) :
    (binding accepts).SucceedsExactly input bindings fun found =>
      ∃ token rest, input = .symbol Body.bindMarker :: token :: rest ∧ accepts token = true ∧
        found = .front input 2 (bindings.bind Generation.captureName [token]) := by
  by_cases own : ∃ token rest, input = .symbol Body.bindMarker :: token :: rest ∧ accepts token = true
  · obtain ⟨token, rest, rfl, accepted⟩ := own
    refine succeedsExactly_of_succeeded (if_pos ?_) (by simp [accepted])
    rw [Token.isNamed_iff.mpr rfl, accepted, Bool.and_self]
  · refine succeedsExactly_of_failed ?_ fun found ⟨token, rest, same, accepted, _⟩ =>
      own ⟨token, rest, same, accepted⟩
    unfold binding
    split
    next marker token rest =>
        refine if_neg fun both => own ⟨token, rest, ?_, (Bool.and_eq_true_iff.mp both).2⟩
        rw [Token.isNamed_iff.mp (Bool.and_eq_true_iff.mp both).1]
    next => rfl

end Step

theorem FormKind.accepts_reference_iff {functions : FunctionTable}
    (unquoted : functions.contains "quote" = false) {token : Token} :
    FormKind.reference.accepts functions token = true ↔
      ∃ name, token = .symbol name ∧ (Token.symbol name).isReserved = false := by
  rw [accepts_eq_passes unquoted]
  cases token <;> simp [passes, Token.isSymbol]

namespace Body

def quantifiedAt (sequence : List Token) (place : Nat) : Bool :=
  sequence[place]?.any fun token => ["+", "*", "?"].any fun marker => token.isNamed marker

theorem formMeasure_eq_some_iff {sequence : List Token} {total : Nat} :
    formMeasure sequence = some total ↔ ∃ count, atomLength sequence = .ok count ∧
      total = if quantifiedAt sequence count then count + 1 else count := by
  have marked : ∀ place, quantifiedAt sequence place =
      (sequence[place]?.bind Quantifier.ofToken?).isSome := by
    intro place
    cases found : sequence[place]? with
    | none => simp [quantifiedAt, found]
    | some token =>
        rw [quantifiedAt, found, Option.bind_some, Quantifier.ofToken?, List.isSome_find?]
        rfl
  unfold formMeasure formLength
  cases atomLength sequence with
  | error problem => simp [Except.map, Except.toOption]
  | ok count =>
      simp only [Except.map, Except.toOption, Option.some.injEq, Except.ok.injEq, marked,
        exists_eq_left']
      cases sequence[count]?.bind Quantifier.ofToken? <;> exact eq_comm

end Body

namespace Builder

variable {builder : Builder} {registry : Registry} (described : builder.Described)
  (built : builder.build = .ok registry)
  (unquoted : registry.functions.contains "quote" = false)

include described built unquoted

theorem Described.invoke_atomic : registry.invoke Core.atomicRule = .measured Body.atomMeasure :=
  described.invoke_eq built unquoted (by decide +kernel)
    (described.core.measuredAt_atomic built unquoted)

theorem Described.invoke_element :
    registry.invoke Generation.elementRule = .measured Body.formMeasure :=
  described.invoke_eq built unquoted (Core.mem_names_of_asks (.inl rfl))
    (described.core.measuredAt_element built unquoted)

theorem Described.invoke_binding : registry.invoke Generation.bindingRule =
    .binding (FormKind.reference.accepts registry.functions) :=
  described.invoke_eq built unquoted (Core.mem_names_of_asks (.inr (.inl rfl)))
    (described.core.approximates_binding built unquoted)

end Builder

namespace Registry

/-- In a registry that is built from core rules and definitions, the rule for atoms with their negations
takes what the direct way of cutting measures, the rule for elements also a quantifier behind it, and the rule
for bindings a marker and a name that is not reserved. -/
theorem succeedsExactly_of_described {builder : Builder} {registry : Registry}
    (described : builder.Described) (built : builder.build = .ok registry)
    (unquoted : registry.functions.contains "quote" = false) (sequence : List Token)
    (bindings : Bindings) :
    (registry.invoke "rule-element-atomic").SucceedsExactly sequence bindings (fun found =>
      ∃ count, Body.atomLength sequence = .ok count ∧
        found = ⟨.tokens (sequence.take count), bindings, count⟩) ∧
    (registry.invoke "rule-element").SucceedsExactly sequence bindings (fun found =>
      ∃ count total, Body.atomLength sequence = .ok count ∧
        total = (if Body.quantifiedAt sequence count then count + 1 else count) ∧
        found = ⟨.tokens (sequence.take total), bindings, total⟩) ∧
    (registry.invoke "binding").SucceedsExactly sequence bindings (fun found =>
      ∃ name rest, sequence = .symbol "=>" :: .symbol name :: rest ∧
        (Token.symbol name).isReserved = false ∧
        found = ⟨.tokens (sequence.take 2), bindings.bind "name" [.symbol name], 2⟩) := by
  have atomic := Step.succeedsExactly_measured Body.atomMeasure sequence bindings
  have element := Step.succeedsExactly_measured Body.formMeasure sequence bindings
  have binding := Step.succeedsExactly_binding (FormKind.reference.accepts registry.functions)
    sequence bindings
  rw [← described.invoke_atomic built unquoted] at atomic
  rw [← described.invoke_element built unquoted] at element
  rw [← described.invoke_binding built unquoted] at binding
  refine ⟨atomic.congr fun found => ?_, element.congr fun found => ?_, binding.congr fun found => ?_⟩
  · simp only [Body.atomMeasure_eq_some_iff, Success.front]
  · simp only [Body.formMeasure_eq_some_iff, Success.front]
    constructor
    · rintro ⟨total, ⟨count, atom, size⟩, same⟩
      exact ⟨count, total, atom, size, same⟩
    · rintro ⟨count, total, atom, size, same⟩
      exact ⟨total, ⟨count, atom, size⟩, same⟩
  · simp only [FormKind.accepts_reference_iff unquoted]
    constructor
    · rintro ⟨_, rest, same, ⟨name, rfl, free⟩, made⟩
      exact ⟨name, rest, same, free, made⟩
    · rintro ⟨name, rest, same, free, made⟩
      exact ⟨_, rest, same, ⟨name, rfl, free⟩, made⟩

/-- Two negations, a name that is defined and a quantifier, in front of a binding; and two negations that
nothing stands behind. -/
theorem succeedsExactly_of_described_negated : ∃ (builder : Builder) (registry : Registry),
    builder.Described ∧ builder.build = .ok registry ∧
      registry.functions.contains "quote" = false ∧
      (let negated := [.symbol "--", .symbol "--", .symbol "pair"]
       let bound := [.symbol "=>", .symbol "x"]
       let sequence := negated ++ .symbol "+" :: bound
       registry.invoke "rule-element-atomic" sequence (.single "x" []) =
          .succeeded ⟨.tokens negated, .single "x" [], 3⟩ ∧
        registry.invoke "rule-element" sequence (.single "x" []) =
          .succeeded ⟨.tokens (negated ++ [.symbol "+"]), .single "x" [], 4⟩ ∧
        registry.invoke "binding" (sequence.drop 4) (.single "n" []) =
          .succeeded ⟨.tokens bound, (Bindings.single "n" []).bind "name" [.symbol "x"], 2⟩) ∧
      ∀ found, registry.invoke "rule-element" [.symbol "--", .symbol "--"] ∅ ≠ .succeeded found := by
  have computed : (Session.registryOf [⟨"pair", [.symbol "symbol", .symbol "number"]⟩]).toOption.any
      (fun registry => !registry.functions.contains "quote") = true := by
    rw [Builder.registryOf_eq]
    decide +kernel
  obtain ⟨registry, opened, free⟩ := Result.exists_of_any computed
  obtain ⟨builder, described, _, built⟩ := Builder.exists_of_registryOf opened
  have unquoted : registry.functions.contains "quote" = false := by simpa using free
  have cuts := succeedsExactly_of_described described built unquoted
  refine ⟨builder, registry, described, built, unquoted, ⟨?_, ?_, ?_⟩, fun found taken => ?_⟩
  · exact ((cuts _ _).1.2 _).mpr ⟨3, rfl, rfl⟩
  · exact ((cuts _ _).2.1.2 _).mpr ⟨3, 4, rfl, rfl, rfl⟩
  · exact ((cuts _ _).2.2.2 _).mpr ⟨"x", [], rfl, rfl, rfl⟩
  · obtain ⟨count, _, impossible, _⟩ := ((cuts _ _).2.1.2 found).mp taken
    cases impossible

end Registry

end TokenGrammar
