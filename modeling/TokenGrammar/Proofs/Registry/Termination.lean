import TokenGrammar.Proofs.Registry.CoreRules
import TokenGrammar.Proofs.Registry.Ranked
/-!
Matching comes to its end without left recursion. The core rules never need more: each of them begins
only with core rules that are registered before it.
-/

namespace TokenGrammar

namespace Core

def names : List String := matchers.map Prod.fst

def taking (name : String) : Bool := name != "end" && names.contains name

theorem takes_of_taking : ∀ rule ∈ matchers, taking rule.1 = true → rule.2.takes taking = true := by
  decide +kernel

theorem references_subset_names : ∀ rule ∈ matchers, ∀ callee ∈ rule.2.references, callee ∈ names := by
  decide +kernel

theorem firsts_before : ∀ rule ∈ matchers, ∀ callee ∈ rule.2.firsts taking,
    names.idxOf callee < names.idxOf rule.1 := by
  decide +kernel

theorem mem_names_of_asks {name : String} (asks : Generation.Asks name) : name ∈ names := by
  rcases asks with rfl | rfl | ⟨kind, rfl⟩
  · decide +kernel
  · decide +kernel
  · cases kind with
    | quantified quantifier => cases quantifier <;> decide +kernel
    | _ => decide +kernel

theorem exists_matcher_of_mem_names {name : String} (own : name ∈ names) :
    ∃ matcher, (name, matcher) ∈ matchers := by
  obtain ⟨⟨found, matcher⟩, member, same⟩ := List.mem_map.mp own
  exact ⟨matcher, same ▸ member⟩

end Core

namespace Builder

variable {builder : Builder} {registry : Registry}

section CoreRules

variable (core : builder.HasCore) (built : builder.build = .ok registry)
  (unquoted : registry.functions.contains "quote" = false)

include core built unquoted

theorem HasCore.mem_matchers {name : String} {body : Matcher} (own : name ∈ Core.names)
    (known : registry.lookup name = some body) : (name, body) ∈ Core.matchers := by
  obtain ⟨matcher, member⟩ := Core.exists_matcher_of_mem_names own
  rw [core.lookup_eq built unquoted member] at known
  exact Option.some.inj known ▸ member

theorem HasCore.takes_of_taking (name : String) (body : Matcher)
    (taken : Core.taking name = true) (known : registry.lookup name = some body) :
    body.takes Core.taking = true := by
  have own : name ∈ Core.names := List.contains_iff_mem.mp (Bool.and_eq_true_iff.mp taken).2
  exact Core.takes_of_taking _ (core.mem_matchers built unquoted own known) taken

omit unquoted in
theorem HasCore.length_names_le : Core.names.length ≤ registry.rules.size := by
  have sub : Core.names ⊆ builder.factories.map Prod.fst := by
    intro name own
    rw [Core.names, Core.names_matchers] at own
    obtain ⟨entry, member, same⟩ := List.mem_map.mp own
    exact same ▸ List.mem_map_of_mem (core.recipes entry member)
  have fewer := (Core.nodup_names_matchers.subperm sub).length_le
  rw [core.inStep.size_rules built]
  exact Nat.le_trans fewer (Nat.le_of_eq (List.length_map _))

theorem HasCore.ranked : registry.Ranked (· ∈ Core.names) Core.names.idxOf := by
  refine ⟨?_, ?_, ?_⟩
  · intro caller body callee own known refers
    have listed := core.mem_matchers built unquoted own known
    rcases refers with reference | ⟨asks, _⟩
    · exact Core.references_subset_names _ listed _ (Matcher.mem_references_of_part reference)
    · exact Core.mem_names_of_asks asks
  · rintro caller callee own ⟨body, known, begins⟩ _
    have listed := core.mem_matchers built unquoted own known
    have first := Registry.mem_firsts_of_begins (core.takes_of_taking built unquoted) begins
    exact Core.firsts_before _ listed _ first
  · intro name
    exact Nat.le_trans List.idxOf_le_length (core.length_names_le built)

end CoreRules

section Described

variable (described : builder.Described) (built : builder.build = .ok registry)
  (unquoted : registry.functions.contains "quote" = false)

include described built unquoted

theorem Described.returns {name : String} (own : name ∈ Core.names) : registry.Returns name :=
  Registry.returns_of_ranked
    (Registry.honest_of_build (described.definitions.imp fun _ => .inr) built)
    (described.core.ranked built unquoted) own

theorem Described.invoke_eq {name : String} (own : name ∈ Core.names) {step : Step}
    (close : ∀ level, (registry.run level (.rule name)).Approximates step) :
    registry.invoke name = step := by
  funext input bindings
  obtain ⟨ends, enough, same⟩ := described.returns built unquoted own input bindings
  have reached := close enough input bindings
  rw [same enough (Nat.le_refl _)] at reached
  exact reached.eq ends

end Described

end Builder

namespace Registry

/-- In a registry that is built from core rules and definitions, matching by a rule comes to its end
if no rule comes back to itself by left calls; matching by a core rule always does. -/
theorem returns_of_acyclic {builder : Builder} {registry : Registry}
    (described : builder.Described) (built : builder.build = .ok registry)
    (unquoted : registry.functions.contains "quote" = false) :
    ((∀ name, ¬ Relation.TransGen registry.LeftCalls name name) → ∀ name, registry.Returns name) ∧
      ∀ entry ∈ Core.recipes, registry.Returns entry.1 := by
  have honest : registry.Honest := honest_of_build (described.definitions.imp fun _ => .inr) built
  constructor
  · intro acyclic name
    exact returns_of_ranked honest (ranked_of_acyclic acyclic) trivial
  · intro entry member
    refine returns_of_ranked honest (described.core.ranked built unquoted) ?_
    rw [Core.names, Core.names_matchers]
    exact List.mem_map_of_mem member

/-- Ranks show that a registry has no left recursion, given a set of rules that take a token. -/
theorem acyclic_of_falls {registry : Registry} {taking : String → Bool} {rank : String → Nat}
    (takes : ∀ rule ∈ registry.rules.entries, taking rule.1 = true → rule.2.takes taking = true)
    (falls : ∀ rule ∈ registry.rules.entries, ∀ callee ∈ rule.2.firsts taking,
      rank callee < rank rule.1) :
    ∀ name, ¬ Relation.TransGen registry.LeftCalls name name := by
  have once : ∀ caller callee, registry.LeftCalls caller callee → rank callee < rank caller := by
    rintro caller callee ⟨body, known, begins⟩
    refine falls _ (NameMap.get?_eq_some_iff.mp known) callee (mem_firsts_of_begins ?_ begins)
    intro name body taken found
    exact takes _ (NameMap.get?_eq_some_iff.mp found) taken
  have often : ∀ caller callee, Relation.TransGen registry.LeftCalls caller callee →
      rank callee < rank caller := by
    intro caller callee calls
    induction calls with
    | single first => exact once _ _ first
    | tail _ last ih => exact Nat.lt_trans (once _ _ last) ih
  exact fun name cycle => Nat.lt_irrefl _ (often name name cycle)

/-- A rule that calls itself behind a number, and so not from the left. -/
theorem returns_of_acyclic_numbers : ∃ (builder : Builder) (registry : Registry),
    builder.Described ∧ builder.build = .ok registry ∧
      registry.functions.contains "quote" = false ∧
      (∀ name, ¬ Relation.TransGen registry.LeftCalls name name) ∧
      registry.contains "numbers" = true ∧ registry.Returns "numbers" := by
  let taking := fun name => Core.taking name || name == "numbers"
  let order := Core.names ++ ["numbers"]
  have computed : (match Session.registryOf
        [⟨"numbers", [.symbol "number", .symbol "numbers", .symbol "?"]⟩] with
      | .ok registry =>
          registry.contains "numbers" &&
            (registry.rules.entries.all fun rule =>
              (!taking rule.1 || rule.2.takes taking) &&
                (rule.2.firsts taking).all fun callee => order.idxOf callee < order.idxOf rule.1)
      | .error _ => false) = true := by
    rw [Builder.registryOf_eq]
    decide +kernel
  split at computed
  next registry opened =>
    obtain ⟨builder, described, standard, built⟩ := Builder.exists_of_registryOf opened
    obtain ⟨registered, checked⟩ := Bool.and_eq_true_iff.mp computed
    have unquoted : registry.functions.contains "quote" = false := by
      rw [Builder.functions_of_build built, standard]
      decide +kernel
    have acyclic : ∀ name, ¬ Relation.TransGen registry.LeftCalls name name := by
      refine @acyclic_of_falls registry taking order.idxOf ?_ ?_
      · intro rule member taken
        have all := List.all_eq_true.mp checked rule member
        simpa [taken] using (Bool.and_eq_true_iff.mp all).1
      · intro rule member callee first
        have all := List.all_eq_true.mp checked rule member
        exact of_decide_eq_true (List.all_eq_true.mp (Bool.and_eq_true_iff.mp all).2 callee first)
    exact ⟨builder, registry, described, built, unquoted, acyclic, registered,
      (returns_of_acyclic described built unquoted).1 acyclic "numbers"⟩
  next => cases computed

end Registry

end TokenGrammar
