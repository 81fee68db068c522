import TokenGrammar.Proofs.Reading.Lines
import TokenGrammar.Registry.Core
/-!
The texts of the core rules: the grammar of rule bodies and the recognizers read as the tokens that the core
rules are made of.
-/

namespace TokenGrammar

theorem readDefinitions_line {source other : String} {definitions others : List Definition}
    (first : readDefinitions source = .ok definitions)
    (second : readDefinitions other = .ok others) :
    readDefinitions (source ++ "\n" ++ other) = .ok (definitions ++ others) := by
  unfold readDefinitions at first second ⊢
  cases reads : read source with
  | error problem => simp [reads] at first
  | ok forms =>
      cases readsOther : read other with
      | error problem => simp [readsOther] at second
      | ok behind =>
          have joined : read (source ++ "\n" ++ other) = .ok (forms ++ behind) := by
            rw [Reading.read_eq_ok_iff, Reading.toList_line]
            exact (Reading.read_eq_ok_iff.mp reads).line (Reading.read_eq_ok_iff.mp readsOther)
          rw [reads] at first
          rw [readsOther] at second
          rw [joined]
          exact Result.mapM_append_eq_ok_iff.mpr ⟨definitions, others, first, second, rfl⟩

theorem readDefinitions_lines {parts : List String} {each : List (List Definition)}
    (define : parts.mapM readDefinitions = .ok each) :
    readDefinitions ("\n".intercalate parts) = .ok each.flatten := by
  induction parts generalizing each with
  | nil =>
      cases define
      with_unfolding_all rfl
  | cons part rest ih =>
      obtain ⟨first, others, own, later, rfl⟩ := Result.mapM_cons_eq_ok_iff.mp define
      cases rest with
      | nil =>
          cases later
          rw [String.intercalate_singleton, own]
          exact congrArg Except.ok (List.append_nil first).symm
      | cons next behind =>
          rw [String.intercalate_cons_cons, List.flatten_cons]
          exact readDefinitions_line own (ih later)

namespace Core

set_option maxRecDepth 4000 in
theorem mapM_grammarParts :
    (grammarParts.mapM readDefinitions).map List.flatten = .ok definitions := by
  with_unfolding_all rfl

theorem readDefinitions_grammarText : readDefinitions grammarText = .ok definitions := by
  obtain ⟨each, define, joined⟩ := Result.map_eq_ok_iff.mp mapM_grammarParts
  rw [grammarText, readDefinitions_lines define, joined]

/-- Recognizers of the same kinds in the same order, one as a text and the other as its tokens. -/
def ReadAs : List (FormKind × String) → List (FormKind × List Token) → Prop :=
  List.Forall₂ fun written entry => written.1 = entry.1 ∧ read written.2 = .ok entry.2

theorem recognizerTexts_readAs : ReadAs recognizerTexts recognizers := by
  repeat refine .cons ⟨rfl, by with_unfolding_all rfl⟩ ?_
  exact .nil

end Core

end TokenGrammar
