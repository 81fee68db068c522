import TokenGrammar.Proofs.Matcher.Soundness
import TokenGrammar.Proofs.Registry.Built
import TokenGrammar.Proofs.Registry.Levels
/-!
Every success of a registry is sound, and every matcher that it generates is plain. Both hold level by
level: what a matcher reports is what the steps inside it report, put together soundly. The main
statement is `sound_of_build`.
-/

namespace TokenGrammar

namespace Generation

def Invoke.GeneratesPlain (invoke : Invoke) : Prop :=
  ∀ name form found matcher, invoke name form = .succeeded found →
    found.compiled? = some matcher → matcher.Plain

variable {functions : FunctionTable} {invoke : Invoke}

theorem plain_of_element (plain : invoke.GeneratesPlain) {form : List Token} {matcher : Matcher}
    (made : element functions invoke form = .succeeded matcher) : matcher.Plain := by
  unfold element at made
  split at made
  · cases made
  · obtain ⟨found, invoked, compiled⟩ := Outcome.bind_eq_succeeded_iff.mp made
    exact plain _ _ found matcher invoked (Outcome.ofOption_eq_succeeded_iff.mp compiled)

theorem plain_of_elementsWithin (plain : invoke.GeneratesPlain) {budget : Nat}
    {sequence : List Token} {elements : List (Matcher × Option String)}
    (made : elementsWithin functions invoke budget sequence = .succeeded elements) :
    ∀ element ∈ elements, element.1.Plain := by
  induction budget generalizing sequence elements with
  | zero =>
      cases sequence with
      | nil =>
          rw [← Outcome.succeeded.inj made]
          simp
      | cons token rest => cases made
  | succ budget ih =>
      cases sequence with
      | nil =>
          rw [← Outcome.succeeded.inj made]
          simp
      | cons token rest =>
          obtain ⟨chunk, _, made⟩ := Outcome.bind_eq_succeeded_iff.mp made
          obtain ⟨matcher, first, made⟩ := Outcome.bind_eq_succeeded_iff.mp made
          obtain ⟨⟨name, left⟩, _, made⟩ := Outcome.bind_eq_succeeded_iff.mp made
          obtain ⟨others, later, same⟩ := Outcome.bind_eq_succeeded_iff.mp made
          rw [← Outcome.succeeded.inj same]
          intro element member
          rcases List.mem_cons.mp member with here | behind
          · rw [here]
            exact plain_of_element plain first
          · exact ih later element behind

theorem plain_of_alternativesMatchers (plain : invoke.GeneratesPlain)
    {alternatives : List (List Token)} {matchers : List Matcher}
    (made : alternativesMatchers functions invoke alternatives = .succeeded matchers) :
    ∀ matcher ∈ matchers, matcher.Plain := by
  induction alternatives generalizing matchers with
  | nil =>
      rw [← Outcome.succeeded.inj made]
      simp
  | cons sequence rest ih =>
      obtain ⟨matcher, first, made⟩ := Outcome.bind_eq_succeeded_iff.mp made
      obtain ⟨elements, cut, sequenced⟩ := Outcome.bind_eq_succeeded_iff.mp first
      obtain ⟨others, later, same⟩ := Outcome.bind_eq_succeeded_iff.mp made
      rw [← Outcome.succeeded.inj same]
      intro alternative member
      rcases List.mem_cons.mp member with here | behind
      · rw [here, ← Outcome.succeeded.inj sequenced]
        exact Matcher.plain_sequenceOf (plain_of_elementsWithin plain cut)
      · exact ih later alternative behind

theorem plain_of_formMatcher (plain : invoke.GeneratesPlain) {known : String → Bool}
    {kind : FormKind} {form : List Token} {matcher : Matcher}
    (made : formMatcher functions known invoke kind form = .succeeded matcher) :
    matcher.Plain := by
  cases form with
  | nil => cases made
  | cons head rest =>
      cases kind with
      | quantified quantifier =>
          obtain ⟨inner, found, same⟩ := Outcome.bind_eq_succeeded_iff.mp made
          rw [← Outcome.succeeded.inj same]
          exact Matcher.throughout_repetition trivial (plain_of_element plain found)
      | negated =>
          obtain ⟨inner, found, same⟩ := Outcome.bind_eq_succeeded_iff.mp made
          rw [← Outcome.succeeded.inj same]
          exact Matcher.throughout_negation trivial (plain_of_element plain found)
      | group =>
          unfold formMatcher at made
          dsimp only at made
          split at made
          · obtain ⟨items, _, made⟩ := Outcome.bind_eq_succeeded_iff.mp made
            obtain ⟨matchers, all, same⟩ := Outcome.bind_eq_succeeded_iff.mp made
            rw [← Outcome.succeeded.inj same]
            exact Matcher.plain_choiceOf (plain_of_alternativesMatchers plain all)
          · cases made
      | reference =>
          obtain ⟨name, _, same⟩ := Option.map_eq_some_iff.mp
            (Outcome.ofOption_eq_succeeded_iff.mp made)
          rw [← same]
          exact Matcher.throughout_leaf trivial trivial
      | text =>
          cases head with
          | text content =>
              rw [← Outcome.succeeded.inj made]
              exact Matcher.throughout_leaf trivial trivial
          | _ => cases made
      | predicate | literal =>
          rw [← Outcome.succeeded.inj made]
          exact Matcher.throughout_leaf trivial trivial

end Generation

namespace Step

def GeneratesPlain (step : Step) : Prop :=
  ∀ input bindings found matcher, step input bindings = .succeeded found →
    found.compiled? = some matcher → matcher.Plain

def GivesTokens (step : Step) : Prop :=
  ∀ input bindings found, step input bindings = .succeeded found → found.compiled? = none

theorem GivesTokens.generatesPlain {step : Step} (tokens : step.GivesTokens) :
    step.GeneratesPlain := by
  intro input bindings found matcher succeeded compiled
  rw [tokens input bindings found succeeded] at compiled
  cases compiled

theorem givesTokens_one (accepts : Token → Bool) : (one accepts).GivesTokens := by
  intro input bindings found succeeded
  unfold one at succeeded
  split at succeeded
  · split at succeeded
    · rw [← Outcome.succeeded.inj succeeded]
      rfl
    · cases succeeded
  · cases succeeded

theorem givesTokens_lookahead (holds : List Token → Bindings → Bool) :
    (lookahead holds).GivesTokens := by
  intro input bindings found succeeded
  unfold lookahead at succeeded
  split at succeeded
  · rw [← Outcome.succeeded.inj succeeded]
    rfl
  · cases succeeded

theorem givesTokens_text (characters : List Char) : (text characters).GivesTokens := by
  intro input bindings found succeeded
  unfold text at succeeded
  split at succeeded
  · rw [← Outcome.succeeded.inj succeeded]
    rfl
  · cases succeeded

theorem givesTokens_sequence (elements : List (Step × Option String)) :
    (sequence elements).GivesTokens := by
  intro input bindings found succeeded
  rw [(front_of_sequenceFrom (Nat.zero_le _) succeeded).2]
  rfl

theorem givesTokens_repetition (quantifier : Quantifier) (budget : Nat) (step : Step) :
    (repetition quantifier budget step).GivesTokens := by
  intro input bindings found succeeded
  obtain ⟨final, _, enough⟩ := Outcome.bind_eq_succeeded_iff.mp succeeded
  split at enough
  · rw [← Outcome.succeeded.inj enough]
    rfl
  · cases enough

theorem givesTokens_negation (step : Step) : (negation step).GivesTokens := by
  intro input bindings found succeeded
  unfold negation at succeeded
  split at succeeded
  · cases succeeded
  · rw [← Outcome.succeeded.inj succeeded]
    rfl
  · cases succeeded

theorem generatesPlain_choice {steps : List Step} (plain : ∀ step ∈ steps, step.GeneratesPlain) :
    (choice steps).GeneratesPlain := by
  intro input bindings found matcher succeeded
  obtain ⟨step, member, here⟩ := exists_mem_of_choice succeeded
  exact plain step member input bindings found matcher here

end Step

namespace Registry

variable {registry : Registry}

def Honest (registry : Registry) : Prop :=
  ∀ name body, registry.lookup name = some body → body.Honest

theorem generatesPlain_run (level : Nat) : ∀ matcher, (registry.run level matcher).GeneratesPlain := by
  induction level with
  | zero =>
      intro matcher input bindings found generated succeeded
      cases succeeded
  | succ level ih =>
      intro matcher
      cases matcher with
      | literal expected => exact (Step.givesTokens_one _).generatesPlain
      | tokenIf name test => exact (Step.givesTokens_one _).generatesPlain
      | endOfInput => exact (Step.givesTokens_lookahead _).generatesPlain
      | rule name =>
          intro input bindings found generated succeeded
          rw [run_rule] at succeeded
          split at succeeded
          · exact ih _ _ _ _ _ succeeded
          · cases succeeded
      | sequence elements => exact (Step.givesTokens_sequence _).generatesPlain
      | choice alternatives =>
          apply Step.generatesPlain_choice
          exact List.forall_mem_map.mpr fun alternative _ => ih alternative
      | repetition quantifier inner => exact (Step.givesTokens_repetition _ _ _).generatesPlain
      | negation inner => exact (Step.givesTokens_negation _).generatesPlain
      | predicate call => exact (Step.givesTokens_lookahead _).generatesPlain
      | text content => exact (Step.givesTokens_text _).generatesPlain
      | compiler kind recognizer =>
          intro input bindings found generated succeeded compiled
          rw [run_compiler] at succeeded
          obtain ⟨recognized, _, succeeded⟩ := Outcome.bind_eq_succeeded_iff.mp succeeded
          obtain ⟨made, formed, same⟩ := Outcome.bind_eq_succeeded_iff.mp succeeded
          rw [← Outcome.succeeded.inj same] at compiled
          rw [← Option.some.inj compiled]
          refine Generation.plain_of_formMatcher ?_ formed
          intro name form found matcher invoked inner
          unfold invokeAt at invoked
          split at invoked
          · exact ih _ _ _ _ _ invoked inner
          · cases invoked
      | claim count =>
          intro input bindings found generated succeeded compiled
          rw [← Outcome.succeeded.inj succeeded] at compiled
          cases compiled

theorem sound_run (honest : registry.Honest) (level : Nat) :
    ∀ matcher, matcher.Honest → (registry.run level matcher).Sound := by
  -- On the levels and not on the matcher, since a rule stands for its body.
  induction level with
  | zero =>
      intro matcher _ input bindings found succeeded
      cases succeeded
  | succ level ih =>
      intro matcher own
      cases matcher with
      | literal expected => exact Step.sound_one _
      | tokenIf name test => exact Step.sound_one _
      | endOfInput => exact Step.sound_lookahead _
      | rule name =>
          intro input bindings found succeeded
          rw [run_rule] at succeeded
          split at succeeded
          next body known => exact ih body (honest name body known) _ _ _ succeeded
          next => cases succeeded
      | sequence elements =>
          apply Step.sound_sequence
          exact forall_mem_stepsAt fun element member =>
            ih element.1 (own.part (.element member .whole))
      | choice alternatives =>
          apply Step.sound_choice
          exact List.forall_mem_map.mpr fun alternative member =>
            ih alternative (own.part (.alternative member .whole))
      | repetition quantifier inner =>
          exact Step.sound_repetition (ih inner (own.part (.repeated .whole))) _ _
      | negation inner => exact Step.sound_negation _
      | predicate call => exact Step.sound_lookahead _
      | text content => exact Step.sound_text _
      | compiler kind recognizer =>
          intro input bindings found succeeded
          rw [run_compiler] at succeeded
          obtain ⟨recognized, first, succeeded⟩ := Outcome.bind_eq_succeeded_iff.mp succeeded
          obtain ⟨generated, _, same⟩ := Outcome.bind_eq_succeeded_iff.mp succeeded
          rw [← Outcome.succeeded.inj same]
          have within := (ih recognizer (own.part (.recognizer .whole)) _ _ _ first).within
          exact ⟨within, (fun _ impossible => by cases impossible), Bindings.extends_refl _ _⟩
      | claim count => exact (own _ .whole).elim

theorem sound_elements (honest : registry.Honest) (level : Nat)
    {elements : List (Matcher × Option String)} (own : (Matcher.sequence elements).Honest) :
    ∀ element ∈ registry.stepsAt level elements, element.1.Sound :=
  forall_mem_stepsAt fun element member =>
    sound_run honest level element.1 (own.part (.element member .whole))

end Registry

namespace Core

theorem leaf_of_mem_primitives : ∀ entry ∈ primitives, ∃ matcher, entry.2 = .ready matcher ∧
    matcher.IsLeaf ∧ matcher.IsPlain := by
  simp [primitives, testRule, Matcher.IsLeaf, Matcher.IsPlain]

theorem leaf_of_ready {entry : String × Recipe} (member : entry ∈ recipes) {matcher : Matcher}
    (ready : entry.2 = .ready matcher) : matcher.IsLeaf ∧ matcher.IsPlain := by
  rcases List.mem_append.mp member with primitive | described
  · obtain ⟨found, same, leaf⟩ := leaf_of_mem_primitives entry primitive
    rw [ready] at same
    exact Recipe.ready.inj same ▸ leaf
  · rcases List.mem_append.mp described with defined | compiled
    · obtain ⟨definition, _, same⟩ := List.mem_map.mp defined
      rw [← same] at ready
      cases ready
    · obtain ⟨⟨kind, recognizer⟩, _, same⟩ := List.mem_map.mp compiled
      rw [← same] at ready
      cases ready

end Core

namespace Registry

theorem honest_of_build {builder : Builder} {registry : Registry}
    (all : builder.CoreOr fun recipe => recipe.IsLiteral ∨ recipe.IsDefinition)
    (built : builder.build = .ok registry) : registry.Honest := by
  intro name body known
  obtain ⟨recipe, member, made⟩ := Builder.exists_recipe_of_lookup built known
  cases recipe with
  | ready matcher =>
      rw [← Except.ok.inj made]
      rcases all _ member with core | ⟨expected, literal⟩ | ⟨tokens, impossible⟩
      · obtain ⟨leaf, plain⟩ := Core.leaf_of_ready core rfl
        exact Matcher.Plain.honest (Matcher.throughout_leaf leaf plain)
      · cases literal
        exact Matcher.throughout_leaf trivial trivial
      · cases impossible
  | body tokens => exact (plain_of_compileBody made).honest
  | compiler kind recognizer =>
      obtain ⟨inner, compiled, same⟩ := Result.map_eq_ok_iff.mp made
      rw [← same]
      exact Matcher.throughout_compiler trivial (plain_of_compileBody compiled).honest

/-- The matchers that are compiled against a registry: directly, or in a run of its own rules. -/
inductive Compiled (registry : Registry) : Matcher → Prop
  | body {body : List Token} {matcher : Matcher}
      (made : compileBody registry.functions body = .ok matcher) : Compiled registry matcher
  | form {form : List Token} {matcher : Matcher}
      (made : compileForm registry.functions form = .ok matcher) : Compiled registry matcher
  | generated {level : Nat} {source : Matcher} {input : List Token} {bindings : Bindings}
      {found : Success} {matcher : Matcher}
      (succeeded : registry.run level source input bindings = .succeeded found)
      (made : found.compiled? = some matcher) : Compiled registry matcher

theorem Compiled.plain {registry : Registry} {matcher : Matcher}
    (compiled : registry.Compiled matcher) : matcher.Plain := by
  cases compiled with
  | body made => exact plain_of_compileBody made
  | form made =>
      exact Compilation.plain_of_formMatcher (fun _ _ found => plain_of_compileBody found) made
  | generated succeeded made => exact generatesPlain_run _ _ _ _ _ _ succeeded made

theorem sound_rule {registry : Registry} (honest : registry.Honest) (level : Nat) (name : String) :
    (registry.run level (.rule name)).Sound :=
  sound_run honest level (.rule name) (Matcher.throughout_leaf trivial trivial)

theorem sound_invoke {registry : Registry} (honest : registry.Honest) (name : String) :
    (registry.invoke name).Sound := by
  intro input bindings found succeeded
  unfold invoke at succeeded
  split at succeeded
  next body known => exact sound_run honest _ body (honest name body known) _ _ _ succeeded
  next => cases succeeded

/-- Rules of a registry that is built from core rules, literals and definitions, and matchers compiled
against it, have only sound successes, however many levels a run goes down. -/
theorem sound_of_build {builder : Builder} {registry : Registry}
    (all : builder.CoreOr fun recipe => recipe.IsLiteral ∨ recipe.IsDefinition)
    (built : builder.build = .ok registry) :
    (∀ level name input bindings found,
      registry.run level (.rule name) input bindings = .succeeded found →
        found.Sound input bindings) ∧
    (∀ name input bindings found, registry.invoke name input bindings = .succeeded found →
      found.Sound input bindings) ∧
    ∀ matcher, registry.Compiled matcher → ∀ input bindings found,
      (∀ level, registry.run level matcher input bindings = .succeeded found →
        found.Sound input bindings) ∧
      (registry.matchFront matcher input bindings = .succeeded found →
        found.Sound input bindings) := by
  have honest := honest_of_build all built
  refine ⟨fun level name => sound_rule honest level name, fun name => sound_invoke honest name, ?_⟩
  intro matcher compiled input bindings found
  have runs := fun level => sound_run honest level matcher compiled.plain.honest input bindings found
  exact ⟨runs, runs (registry.levels matcher input)⟩

/-- A pair of a symbol with a name and a number is matched in a session, and matched soundly. -/
theorem sound_of_build_pair : ∃ (builder : Builder) (registry : Registry) (found : Success),
    builder.CoreOr (fun recipe => recipe.IsLiteral ∨ recipe.IsDefinition) ∧
      builder.build = .ok registry ∧
      registry.invoke "pair" [.symbol "a", .integer 1, .integer 2] ∅ = .succeeded found ∧
      found.consumed = 2 ∧ found.Sound [.symbol "a", .integer 1, .integer 2] ∅ := by
  have computed : (match Session.registryOf
        [⟨"pair", [.symbol "symbol", .symbol "=>", .symbol "name", .symbol "number"]⟩] with
      | .ok registry =>
          (registry.invoke "pair" [.symbol "a", .integer 1, .integer 2] ∅).any (·.consumed == 2)
      | .error _ => false) = true := by
    rw [Builder.registryOf_eq]
    decide +kernel
  split at computed
  next registry opened =>
    obtain ⟨found, matched, taken⟩ := Outcome.any_eq_true.mp computed
    obtain ⟨builder, described, _, built⟩ := Builder.exists_of_registryOf opened
    have all := described.definitions.imp fun recipe => Or.inr (a := recipe.IsLiteral)
    exact ⟨builder, registry, found, all, built, matched, beq_iff_eq.mp taken,
      (sound_of_build all built).2.1 _ _ _ _ matched⟩
  next => cases computed

end Registry

end TokenGrammar
