import TokenGrammar.Proofs.Form.Shape
import TokenGrammar.Proofs.Registry.Built
/-!
The matchers of the core rules. As long as no function is called `quote`, the quoted markers in the
grammar of bodies are literals, and the core rules come out the same for all functions.
-/

namespace TokenGrammar

namespace Core

def atomicRule : String := "rule-element-atomic"

def tests : List (String × Matcher) := [
  ("anything", .tokenIf "anything" .anything),
  ("variable", .tokenIf "variable" .symbol),
  ("symbol", .tokenIf "symbol" .symbol),
  ("string", .tokenIf "string" .text),
  ("atom", .tokenIf "atom" .atomic),
  ("list", .tokenIf "list" (.group .round)),
  ("vec", .tokenIf "vec" (.group .square)),
  ("keyword", .tokenIf "keyword" .reserved),
  ("number", .tokenIf "number" .number),
  ("char", .tokenIf "char" .character),
  ("boolean", .tokenIf "boolean" .boolean),
  ("quoted", .tokenIf "quoted" .quoted),
  ("end", .endOfInput),
  ("predicate-call", .tokenIf "predicate-call" .call)]

def markers : List (String × Matcher) :=
  Token.reserved.map fun marker => (marker, .literal (.symbol marker))

def referenceMatcher : Matcher :=
  .sequence [(.negation (.rule "keyword"), none), (.rule "symbol", none)]

def literalMatcher : Matcher :=
  .choice [.rule "number", .rule "char", .rule "boolean", .rule "quoted"]

def groupMatcher : Matcher :=
  .choice [.rule "vec", .sequence [(.negation (.rule "predicate-call"), none),
    (.negation (.rule "quoted"), none), (.rule "list", none)]]

def atomicMatcher : Matcher :=
  .choice [.rule "predicate-call", .rule "group", .rule "rule-reference", .rule "string",
    .rule "literal", .sequence [(.literal (.symbol "--"), none), (.rule atomicRule, none)]]

def quantifierMatcher : Matcher :=
  .choice [.literal (.symbol "+"), .literal (.symbol "*"), .literal (.symbol "?")]

def elementMatcher : Matcher :=
  .choice [.sequence [(.rule atomicRule, none), (.rule "quantifier", none)], .rule atomicRule]

def bindingMatcher : Matcher :=
  .sequence [(.literal (.symbol "=>"), none),
    (.rule "rule-reference", some Generation.captureName)]

def grammar : List (String × Matcher) := [
  ("rule-reference", referenceMatcher),
  ("literal", literalMatcher),
  ("group", groupMatcher),
  (atomicRule, atomicMatcher),
  ("quantifier", quantifierMatcher),
  (Generation.elementRule, elementMatcher),
  (Generation.bindingRule, bindingMatcher)]

def recognized : FormKind → List (Matcher × Option String)
  | .reference => [(.rule "rule-reference", none)]
  | .text => [(.rule "string", none)]
  | .literal => [(.rule "literal", none)]
  | .predicate => [(.rule "predicate-call", none)]
  | .group => [(.rule "group", none)]
  | .quantified quantifier =>
      [(.rule atomicRule, none), (.literal (.symbol quantifier.marker), none)]
  | .negated => [(.literal (.symbol "--"), none), (.rule atomicRule, none)]

def compilerOf (kind : FormKind) : String × Matcher :=
  (kind.compiler, .compiler kind (.sequence (recognized kind ++ [(.rule "end", none)])))

def matchers : List (String × Matcher) :=
  tests ++ markers ++ (grammar ++ (recognizers.map Prod.fst).map compilerOf)

section Written

def written : Matcher → List Token
  | .rule name => [.symbol name]
  | .literal expected => [expected.quote]
  | .negation inner => .symbol Form.negation :: written inner
  | _ => []

def isWritten : Matcher → Bool
  | .rule name => !(Token.symbol name).isReserved
  | .literal _ => true
  | .negation inner => isWritten inner
  | _ => false

def writtenElement (element : Matcher × Option String) : Element := ⟨written element.1, element.2⟩

def elementsOf : Matcher → List (Matcher × Option String)
  | .sequence elements => elements
  | matcher => [(matcher, none)]

def sequencesOf : Matcher → List (List (Matcher × Option String))
  | .choice alternatives => alternatives.map elementsOf
  | matcher => [elementsOf matcher]

structure WrittenAs (body : List Token) (matcher : Matcher) : Prop where
  cut : List.Forall₂
    (fun sequence elements => Body.elements sequence = .ok (elements.map writtenElement))
    (Body.alternatives body) (sequencesOf matcher)
  forms : (sequencesOf matcher).all (·.all fun element => isWritten element.1) = true
  whole : .choiceOf ((sequencesOf matcher).map .sequenceOf) = matcher

variable {functions : FunctionTable} (unquoted : functions.contains "quote" = false)

include unquoted

theorem compileForm_written {matcher : Matcher} (known : isWritten matcher = true) :
    (∃ count atom, Form.plainOf? functions (written matcher) = some (count, atom)) ∧
      compileForm functions (written matcher) = .ok matcher := by
  fun_induction isWritten matcher with
  | case1 name =>
      have free : (Token.symbol name).isReserved = false := by simpa using known
      have meaning : Atom.ofToken? functions (.symbol name) = some (.reference name) := by
        simp [Atom.ofToken?, FunctionTable.isCall, Token.quoted?, free]
      exact ⟨⟨0, _, Form.plainOf?_eq_some_iff.mpr ⟨_, rfl, meaning⟩⟩, compileForm_singleton meaning⟩
  | case2 expected =>
      have meaning : Atom.ofToken? functions expected.quote = some (.literal expected) := by
        simp [Atom.ofToken?, FunctionTable.isCall, Token.quote, Token.quoted?, Token.isNamed, unquoted]
      exact ⟨⟨0, _, Form.plainOf?_eq_some_iff.mpr ⟨_, rfl, meaning⟩⟩, compileForm_singleton meaning⟩
  | case3 inner ih =>
      obtain ⟨⟨count, atom, plain⟩, made⟩ := ih known
      refine ⟨⟨count + 1, atom, ?_⟩, ?_⟩
      · rw [written, Form.plainOf?_cons_of_named (Token.isNamed_iff.mpr rfl), plain]
        rfl
      · rw [written, compileForm_negated plain, made]
        rfl
  | case4 => cases known

theorem sequenceMatcher_written {sequence : List Token} {elements : List (Matcher × Option String)}
    (cut : Body.elements sequence = .ok (elements.map writtenElement))
    (forms : ∀ element ∈ elements, isWritten element.1 = true) :
    Compilation.sequenceMatcher functions (compileBody functions) sequence =
      .ok (.sequenceOf elements) := by
  have made : (elements.map writtenElement).mapM
      (Compilation.elementMatcher functions (compileBody functions)) = .ok elements := by
    rw [Result.mapM_eq_ok_iff, List.forall₂_map_left_iff, List.forall₂_same]
    intro element member
    have form := (compileForm_written unquoted (forms element member)).2
    exact Result.map_eq_ok_iff.mpr ⟨element.1, form, rfl⟩
  exact Compilation.sequenceMatcher_eq_ok_iff.mpr ⟨_, elements, cut, made, rfl⟩

theorem WrittenAs.compiled {body : List Token} {matcher : Matcher} (writes : WrittenAs body matcher) :
    compileBody functions body = .ok matcher := by
  obtain ⟨cut, forms, whole⟩ := writes
  rw [compileBody_eq, ← whole]
  refine Result.map_eq_ok_iff.mpr ⟨_, Result.mapM_eq_ok_iff.mpr ?_, rfl⟩
  rw [List.forall₂_map_right_iff]
  have both := (List.forall₂_and_left _ _).mpr ⟨List.all_eq_true.mp forms, cut.flip⟩
  refine List.Forall₂.flip (both.imp ?_)
  rintro elements sequence ⟨each, found⟩
  exact sequenceMatcher_written unquoted found (List.all_eq_true.mp each)

end Written

variable {functions : FunctionTable}

theorem prepareAll_primitives : Builder.prepareAll functions primitives = .ok (tests ++ markers) :=
  rfl

theorem writtenAs_grammar : List.Forall₂
    (fun definition rule => definition.name = rule.1 ∧ WrittenAs definition.body rule.2)
    definitions grammar := by
  refine .cons ⟨rfl, ?_⟩ (.cons ⟨rfl, ?_⟩ (.cons ⟨rfl, ?_⟩ (.cons ⟨rfl, ?_⟩ (.cons ⟨rfl, ?_⟩
    (.cons ⟨rfl, ?_⟩ (.cons ⟨rfl, ?_⟩ .nil))))))
  all_goals
    refine ⟨?_, by decide, rfl⟩
    repeat' first | exact List.Forall₂.nil | refine List.Forall₂.cons ?_ ?_
    all_goals repeat' first | exact Body.elementsFrom_nil _ | refine Body.elementsFrom_eq_ok rfl ?_

theorem writtenAs_recognized : ∀ recognizer ∈ recognizers,
    WrittenAs recognizer.2 (.sequence (recognized recognizer.1 ++ [(.rule "end", none)])) := by
  simp only [recognizers, List.forall_mem_cons]
  refine ⟨?_, ?_, ?_, ?_, ?_, ?_, ?_, ?_, ?_, fun _ none => nomatch none⟩
  all_goals
    refine ⟨.cons ?_ .nil, by decide, rfl⟩
    repeat' first | exact Body.elementsFrom_nil _ | refine Body.elementsFrom_eq_ok rfl ?_

theorem prepareAll_selfDescription (unquoted : functions.contains "quote" = false) :
    Builder.prepareAll functions selfDescription =
      .ok (grammar ++ (recognizers.map Prod.fst).map compilerOf) := by
  rw [Builder.prepareAll_eq_ok_iff]
  refine List.rel_append ?_ ?_
  · rw [List.forall₂_map_left_iff]
    exact writtenAs_grammar.imp fun _ _ both => ⟨both.1, both.2.compiled unquoted⟩
  · rw [List.map_map, List.forall₂_map_left_iff, List.forall₂_map_right_iff, List.forall₂_same]
    intro recognizer member
    have made := (writtenAs_recognized recognizer member).compiled unquoted
    exact ⟨rfl, Result.map_eq_ok_iff.mpr ⟨_, made, rfl⟩⟩

theorem prepareAll_recipes (unquoted : functions.contains "quote" = false) :
    Builder.prepareAll functions recipes = .ok matchers := by
  rw [Builder.prepareAll_eq_ok_iff]
  exact List.rel_append (Builder.prepareAll_eq_ok_iff.mp prepareAll_primitives)
    (Builder.prepareAll_eq_ok_iff.mp (prepareAll_selfDescription unquoted))

theorem names_matchers : matchers.map Prod.fst = recipes.map Prod.fst := rfl

theorem nodup_names_matchers : (matchers.map Prod.fst).Nodup := names_matchers ▸ nodup_names

end Core

namespace Builder

variable {builder : Builder} {registry : Registry}

theorem HasCore.lookup_eq (core : builder.HasCore) (built : builder.build = .ok registry)
    (unquoted : registry.functions.contains "quote" = false) {name : String} {matcher : Matcher}
    (member : (name, matcher) ∈ Core.matchers) : registry.lookup name = some matcher := by
  obtain ⟨recipe, listed, made⟩ :=
    (mem_iff_of_prepareAll (Core.prepareAll_recipes unquoted)).mp member
  exact (core.inStep.lookup_eq_some_iff built).mpr ⟨recipe, core.recipes _ listed, made⟩

end Builder

end TokenGrammar
