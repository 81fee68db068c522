import TokenGrammar.Proofs.Form.Measure
import TokenGrammar.Proofs.Registry.CoreRules
import TokenGrammar.Proofs.Registry.Levels
/-!
What the core rules recognise. The rules for the parts of bodies take exactly as many tokens as cutting
the body does, and the recognizer of a kind takes a form as a whole if it is of that kind.
-/

namespace TokenGrammar

namespace Step

open TokenGrammar.Measure

def binding (accepts : Token → Bool) : Step := fun input bindings =>
  match input with
  | marker :: token :: _ =>
      if marker.isNamed Body.bindMarker && accepts token then
        .succeeded (.front input 2 (bindings.bind Generation.captureName [token]))
      else .failed
  | _ => .failed

theorem sequence_binding (accepts : Token → Bool) :
    sequence [(measured (single (Token.isNamed Body.bindMarker)), none),
      (measured (single accepts), some Generation.captureName)] = binding accepts := by
  funext input bindings
  rcases input with _ | ⟨marker, _ | ⟨token, rest⟩⟩
  · rfl
  · cases named : marker.isNamed Body.bindMarker <;>
      simp [sequence, sequenceFrom, measured, single, binding, named, Outcome.bind, Success.front]
  · cases named : marker.isNamed Body.bindMarker <;> cases accepted : accepts token <;>
      simp [sequence, sequenceFrom, measured, single, binding, named, accepted, Outcome.bind,
        Success.front]

end Step

namespace Registry

/-- At a level the runs of a matcher take what a measure says, unless they are cut off. -/
def MeasuredAt (registry : Registry) (level : Nat) (matcher : Matcher) (measure : Measure) : Prop :=
  (registry.run level matcher).Approximates (.measured measure)

section Measured

variable {registry : Registry} {level : Nat}

theorem measuredAt_zero (matcher : Matcher) (measure : Measure) :
    registry.MeasuredAt 0 matcher measure :=
  Step.unfinished_approximates _

theorem MeasuredAt.of_succ {matcher : Matcher} {measure : Measure}
    (measured : registry.MeasuredAt (level + 1) matcher measure) :
    registry.MeasuredAt level matcher measure :=
  (approximates_run_succ level matcher).trans measured

theorem measuredAt_literal (expected : Token) :
    registry.MeasuredAt level (.literal expected) (.single fun token => token.equals expected) := by
  apply MeasuredAt.of_succ
  rw [MeasuredAt, ← Step.one_eq_measured]
  exact Step.approximates_refl _

theorem measuredAt_marker (registry : Registry) (level : Nat) (name : String) :
    registry.MeasuredAt level (.literal (.symbol name)) (.single (Token.isNamed name)) := by
  have same : (fun token => Token.equals token (.symbol name)) = Token.isNamed name := by
    funext token
    cases token <;> rfl
  exact same ▸ measuredAt_literal (.symbol name)

theorem measuredAt_tokenIf (name : String) (test : TokenTest) :
    registry.MeasuredAt level (.tokenIf name test)
      (.single fun token => test.accepts registry.functions token) := by
  apply MeasuredAt.of_succ
  rw [MeasuredAt, ← Step.one_eq_measured]
  exact Step.approximates_refl _

theorem measuredAt_endOfInput : registry.MeasuredAt level .endOfInput .atEnd := by
  apply MeasuredAt.of_succ
  rw [MeasuredAt, ← Step.lookahead_eq_measured]
  exact Step.approximates_refl _

theorem MeasuredAt.rule_succ {name : String} {body : Matcher} {measure : Measure}
    (measured : registry.MeasuredAt level body measure)
    (known : registry.lookup name = some body) :
    registry.MeasuredAt (level + 1) (.rule name) measure := by
  intro input bindings
  rw [run_rule_of_lookup known]
  exact measured input bindings

theorem MeasuredAt.negation {inner : Matcher} {measure : Measure}
    (measured : registry.MeasuredAt level inner measure) :
    registry.MeasuredAt level (.negation inner) (.absent measure) := by
  apply MeasuredAt.of_succ
  rw [MeasuredAt, ← Step.negation_measured]
  exact Step.approximates_negation measured

theorem measuredAt_sequence {elements : List (Matcher × Option String)} {measures : List Measure}
    (within : ∀ measure ∈ measures, measure.Within)
    (parts : List.Forall₂ (fun element measure =>
      element.2 = none ∧ registry.MeasuredAt level element.1 measure) elements measures) :
    registry.MeasuredAt level (.sequence elements) (.inSequence measures) := by
  apply MeasuredAt.of_succ
  rw [MeasuredAt, ← Step.sequence_measured within]
  apply Step.approximates_sequence
  rw [List.forall₂_map_left_iff, List.forall₂_map_right_iff]
  exact parts.imp fun _ _ part => ⟨part.2, part.1⟩

theorem measuredAt_choice {alternatives : List Matcher} {measures : List Measure}
    (parts : List.Forall₂ (registry.MeasuredAt level) alternatives measures) :
    registry.MeasuredAt level (.choice alternatives) (.firstOf measures) := by
  apply MeasuredAt.of_succ
  rw [MeasuredAt, ← Step.choice_measured]
  apply Step.approximates_choice
  rw [List.forall₂_map_left_iff, List.forall₂_map_right_iff]
  exact parts

end Measured

end Registry

namespace Builder

variable {builder : Builder} {registry : Registry} (core : builder.HasCore)
  (built : builder.build = .ok registry)
  (unquoted : registry.functions.contains "quote" = false)

include core built unquoted

theorem HasCore.measuredAt {name : String} {matcher : Matcher}
    (member : (name, matcher) ∈ Core.matchers) {level : Nat} {measure : Measure}
    (measured : registry.MeasuredAt level matcher measure) :
    registry.MeasuredAt level (.rule name) measure :=
  (measured.rule_succ (core.lookup_eq built unquoted member)).of_succ

theorem HasCore.measuredAt_test {name : String} {test : TokenTest}
    (member : (name, .tokenIf name test) ∈ Core.tests) (level : Nat) :
    registry.MeasuredAt level (.rule name)
      (.single fun token => test.accepts registry.functions token) :=
  core.measuredAt built unquoted (List.mem_append_left _ (List.mem_append_left _ member))
    (Registry.measuredAt_tokenIf name test)

theorem HasCore.measuredAt_grammar {name : String} {matcher : Matcher}
    (member : (name, matcher) ∈ Core.grammar) {level : Nat} {measure : Measure}
    (measured : registry.MeasuredAt level matcher measure) :
    registry.MeasuredAt level (.rule name) measure :=
  core.measuredAt built unquoted (List.mem_append_right _ (List.mem_append_left _ member)) measured

theorem HasCore.measuredAt_reference (level : Nat) :
    registry.MeasuredAt level (.rule "rule-reference")
      (.single (FormKind.reference.accepts registry.functions)) := by
  have member : ("rule-reference", Core.referenceMatcher) ∈ Core.grammar := by simp [Core.grammar]
  have keyword := core.measuredAt_test built unquoted
    (show ("keyword", .tokenIf "keyword" .reserved) ∈ Core.tests by simp [Core.tests]) level
  have symbol := core.measuredAt_test built unquoted
    (show ("symbol", .tokenIf "symbol" .symbol) ∈ Core.tests by simp [Core.tests]) level
  have body := Registry.measuredAt_sequence
    (by simp [Measure.within_absent, Measure.within_single])
    (.cons (a := (_, none)) ⟨rfl, keyword.negation⟩ (.cons (a := (_, none)) ⟨rfl, symbol⟩ .nil))
  rw [Measure.inSequence_absent_cons (Measure.inSequence_single _)] at body
  rw [funext (FormKind.accepts_eq_passes unquoted .reference)]
  exact core.measuredAt_grammar built unquoted member body

theorem HasCore.measuredAt_literal (level : Nat) :
    registry.MeasuredAt level (.rule "literal")
      (.single (FormKind.literal.accepts registry.functions)) := by
  have member : ("literal", Core.literalMatcher) ∈ Core.grammar := by simp [Core.grammar]
  have number := core.measuredAt_test built unquoted
    (show ("number", .tokenIf "number" .number) ∈ Core.tests by simp [Core.tests]) level
  have char := core.measuredAt_test built unquoted
    (show ("char", .tokenIf "char" .character) ∈ Core.tests by simp [Core.tests]) level
  have boolean := core.measuredAt_test built unquoted
    (show ("boolean", .tokenIf "boolean" .boolean) ∈ Core.tests by simp [Core.tests]) level
  have quoted := core.measuredAt_test built unquoted
    (show ("quoted", .tokenIf "quoted" .quoted) ∈ Core.tests by simp [Core.tests]) level
  have body := Registry.measuredAt_choice
    (.cons number (.cons char (.cons boolean (.cons quoted .nil))))
  rw [Measure.firstOf_single_cons (Measure.firstOf_single_cons
    (Measure.firstOf_single_cons (Measure.firstOf_single _)))] at body
  rw [funext (FormKind.accepts_eq_passes unquoted .literal)]
  exact core.measuredAt_grammar built unquoted member body

theorem HasCore.measuredAt_group (level : Nat) :
    registry.MeasuredAt level (.rule "group")
      (.single (FormKind.group.accepts registry.functions)) := by
  have member : ("group", Core.groupMatcher) ∈ Core.grammar := by simp [Core.grammar]
  have vec := core.measuredAt_test built unquoted
    (show ("vec", .tokenIf "vec" (.group .square)) ∈ Core.tests by simp [Core.tests]) level
  have call := core.measuredAt_test built unquoted
    (show ("predicate-call", .tokenIf "predicate-call" .call) ∈ Core.tests by simp [Core.tests])
    level
  have quoted := core.measuredAt_test built unquoted
    (show ("quoted", .tokenIf "quoted" .quoted) ∈ Core.tests by simp [Core.tests]) level
  have list := core.measuredAt_test built unquoted
    (show ("list", .tokenIf "list" (.group .round)) ∈ Core.tests by simp [Core.tests]) level
  have plain := Registry.measuredAt_sequence
    (by simp [Measure.within_absent, Measure.within_single])
    (.cons (a := (_, none)) ⟨rfl, call.negation⟩ (.cons (a := (_, none)) ⟨rfl, quoted.negation⟩
      (.cons (a := (_, none)) ⟨rfl, list⟩ .nil)))
  rw [Measure.inSequence_absent_cons (Measure.inSequence_absent_cons
    (Measure.inSequence_single _))] at plain
  have body := Registry.measuredAt_choice (.cons vec (.cons plain .nil))
  rw [Measure.firstOf_single_cons (Measure.firstOf_single _)] at body
  rw [funext (FormKind.accepts_eq_passes unquoted .group)]
  exact core.measuredAt_grammar built unquoted member body

theorem HasCore.measuredAt_predicate (level : Nat) :
    registry.MeasuredAt level (.rule "predicate-call")
      (.single (FormKind.predicate.accepts registry.functions)) := by
  rw [funext (FormKind.accepts_eq_passes unquoted .predicate)]
  exact core.measuredAt_test built unquoted
    (show ("predicate-call", .tokenIf "predicate-call" .call) ∈ Core.tests by simp [Core.tests]) level

theorem HasCore.measuredAt_text (level : Nat) :
    registry.MeasuredAt level (.rule "string")
      (.single (FormKind.text.accepts registry.functions)) := by
  rw [funext (FormKind.accepts_eq_passes unquoted .text)]
  exact core.measuredAt_test built unquoted
    (show ("string", .tokenIf "string" .text) ∈ Core.tests by simp [Core.tests]) level

theorem HasCore.measuredAt_atomic (level : Nat) :
    registry.MeasuredAt level (.rule Core.atomicRule) Body.atomMeasure := by
  induction level with
  | zero => exact Registry.measuredAt_zero _ _
  | succ level ih =>
      have member : (Core.atomicRule, Core.atomicMatcher) ∈ Core.grammar := by simp [Core.grammar]
      have call := core.measuredAt_predicate built unquoted level
      have group := core.measuredAt_group built unquoted level
      have reference := core.measuredAt_reference built unquoted level
      have string := core.measuredAt_text built unquoted level
      have literal := core.measuredAt_literal built unquoted level
      have marker := Registry.measuredAt_marker registry level Form.negation
      have negated := Registry.measuredAt_sequence
        (by simp [Measure.within_single, Body.within_atomMeasure])
        (.cons (a := (_, none)) ⟨rfl, marker⟩ (.cons (a := (_, none)) ⟨rfl, ih⟩ .nil))
      have body := Registry.measuredAt_choice (.cons call (.cons group (.cons reference
        (.cons string (.cons literal (.cons negated .nil))))))
      rw [← Body.firstOf_accepts]
      exact body.rule_succ (core.lookup_eq built unquoted
        (List.mem_append_right _ (List.mem_append_left _ member)))

theorem HasCore.measuredAt_quantifier (level : Nat) :
    registry.MeasuredAt level (.rule "quantifier")
      (.single fun token => (Quantifier.ofToken? token).isSome) := by
  have member : ("quantifier", Core.quantifierMatcher) ∈ Core.grammar := by simp [Core.grammar]
  have marker := Registry.measuredAt_marker registry level
  have body := Registry.measuredAt_choice
    (.cons (marker "+") (.cons (marker "*") (.cons (marker "?") .nil)))
  have same := Measure.firstOf_map_single Quantifier.all fun quantifier token =>
    token.isNamed quantifier.marker
  simp only [Quantifier.ofToken?, List.isSome_find?]
  rw [← same]
  exact core.measuredAt_grammar built unquoted member body

theorem HasCore.measuredAt_element (level : Nat) :
    registry.MeasuredAt level (.rule Generation.elementRule) Body.formMeasure := by
  have member : (Generation.elementRule, Core.elementMatcher) ∈ Core.grammar := by
    simp [Core.grammar]
  have atomic := core.measuredAt_atomic built unquoted level
  have quantifier := core.measuredAt_quantifier built unquoted level
  have quantified := Registry.measuredAt_sequence
    (by simp [Measure.within_single, Body.within_atomMeasure])
    (.cons (a := (_, none)) ⟨rfl, atomic⟩ (.cons (a := (_, none)) ⟨rfl, quantifier⟩ .nil))
  have body := Registry.measuredAt_choice (.cons quantified (.cons atomic .nil))
  rw [Body.firstOf_atomMeasure] at body
  exact core.measuredAt_grammar built unquoted member body

theorem HasCore.approximates_binding (level : Nat) :
    (registry.run level (.rule Generation.bindingRule)).Approximates
      (Step.binding (FormKind.reference.accepts registry.functions)) := by
  have member : (Generation.bindingRule, Core.bindingMatcher) ∈ Core.matchers :=
    List.mem_append_right _ (List.mem_append_left _ (by simp [Core.grammar]))
  refine (Registry.approximates_run (Nat.le_add_right level 2) _).trans ?_
  have marker := Registry.measuredAt_marker registry level Body.bindMarker
  have reference := core.measuredAt_reference built unquoted level
  intro input bindings
  rw [Registry.run_rule_of_lookup (core.lookup_eq built unquoted member), ← Step.sequence_binding]
  refine Step.approximates_sequence ?_ input bindings
  exact .cons ⟨marker, rfl⟩ (.cons ⟨reference, rfl⟩ .nil)

theorem HasCore.measuredAt_end (level : Nat) :
    registry.MeasuredAt level (.rule "end") .atEnd :=
  core.measuredAt built unquoted
    (List.mem_append_left _ (List.mem_append_left _ (by simp [Core.tests])))
    Registry.measuredAt_endOfInput

theorem HasCore.measuredAt_recognized (kind : FormKind) (level : Nat) :
    List.Forall₂ (fun element measure =>
        element.2 = none ∧ registry.MeasuredAt level element.1 measure)
      (Core.recognized kind) (Body.recognizing registry.functions kind) := by
  have marker := Registry.measuredAt_marker registry level
  have atomic := core.measuredAt_atomic built unquoted level
  cases kind with
  | quantified quantifier => exact .cons ⟨rfl, atomic⟩ (.cons ⟨rfl, marker _⟩ .nil)
  | negated => exact .cons ⟨rfl, marker _⟩ (.cons ⟨rfl, atomic⟩ .nil)
  | predicate => exact .cons ⟨rfl, core.measuredAt_predicate built unquoted level⟩ .nil
  | group => exact .cons ⟨rfl, core.measuredAt_group built unquoted level⟩ .nil
  | reference => exact .cons ⟨rfl, core.measuredAt_reference built unquoted level⟩ .nil
  | text => exact .cons ⟨rfl, core.measuredAt_text built unquoted level⟩ .nil
  | literal => exact .cons ⟨rfl, core.measuredAt_literal built unquoted level⟩ .nil

theorem HasCore.measuredAt_recognizer (kind : FormKind) (level : Nat) :
    registry.MeasuredAt level (.sequence (Core.recognized kind ++ [(.rule "end", none)]))
      (kind.recognition registry.functions) := by
  rw [← Body.inSequence_recognizing]
  apply Registry.measuredAt_sequence
  · intro measure listed
    rcases List.mem_append.mp listed with inside | last
    · exact Body.within_recognizing kind measure inside
    · rw [List.mem_singleton.mp last]
      exact Measure.within_atEnd
  · exact List.rel_append (core.measuredAt_recognized built unquoted kind level)
      (.cons ⟨rfl, core.measuredAt_end built unquoted level⟩ .nil)

end Builder

end TokenGrammar
