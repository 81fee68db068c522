import TokenGrammar.Compilation
import TokenGrammar.Proofs.Form.Element
import TokenGrammar.Proofs.Matcher.Part
import TokenGrammar.Proofs.Result
/-!
What bodies are compiled to. A compiled body is plain, and the limit on how deeply groups may stand in
each other never shows: a body is compiled by compiling the items of its groups as bodies.
-/

namespace TokenGrammar

namespace Compilation

variable {functions : FunctionTable} {compileGroup other : List Token → Except GrammarError Matcher}

theorem plain_of_atomMatcher
    (groups : ∀ items matcher, compileGroup items = .ok matcher → matcher.Plain) {atom : Atom}
    {matcher : Matcher} (made : atomMatcher compileGroup atom = .ok matcher) : matcher.Plain := by
  cases atom with
  | group items => exact groups items matcher made
  | _ =>
      rw [← Except.ok.inj made]
      exact Matcher.throughout_leaf trivial trivial

theorem plain_negated {matcher : Matcher} (plain : matcher.Plain) (count : Nat) :
    (negated count matcher).Plain := by
  induction count with
  | zero => exact plain
  | succ count ih => exact Matcher.throughout_negation trivial ih

theorem plain_quantified {matcher : Matcher} (plain : matcher.Plain)
    (quantifier : Option Quantifier) : (quantified quantifier matcher).Plain := by
  cases quantifier with
  | none => exact plain
  | some quantifier => exact Matcher.throughout_repetition trivial plain

theorem plain_of_formMatcher
    (groups : ∀ items matcher, compileGroup items = .ok matcher → matcher.Plain)
    {tokens : List Token} {matcher : Matcher}
    (made : formMatcher functions compileGroup tokens = .ok matcher) : matcher.Plain := by
  unfold formMatcher at made
  split at made
  · cases made
  · obtain ⟨inner, found, same⟩ := Result.map_eq_ok_iff.mp made
    subst same
    exact plain_quantified (plain_negated (plain_of_atomMatcher groups found) _) _

theorem sequenceMatcher_eq_ok_iff {sequence : List Token} {matcher : Matcher} :
    sequenceMatcher functions compileGroup sequence = .ok matcher ↔
      ∃ cut elements, Body.elements sequence = .ok cut ∧
        cut.mapM (elementMatcher functions compileGroup) = .ok elements ∧
          .sequenceOf elements = matcher := by
  unfold sequenceMatcher
  cases Body.elements sequence with
  | error problem => simp [bind, Except.bind]
  | ok cut =>
      cases all : cut.mapM (elementMatcher functions compileGroup) <;>
        simp [all, bind, Except.bind, pure, Except.pure]

theorem plain_of_sequenceMatcher
    (groups : ∀ items matcher, compileGroup items = .ok matcher → matcher.Plain)
    {sequence : List Token} {matcher : Matcher}
    (made : sequenceMatcher functions compileGroup sequence = .ok matcher) : matcher.Plain := by
  obtain ⟨cut, matchers, _, all, same⟩ := sequenceMatcher_eq_ok_iff.mp made
  subst same
  apply Matcher.plain_sequenceOf
  intro named member
  obtain ⟨element, _, found⟩ := Result.exists_of_mem_mapM all member
  obtain ⟨inner, form, same⟩ := Result.map_eq_ok_iff.mp found
  subst same
  exact plain_of_formMatcher groups form

theorem plain_of_bodyMatcher
    (groups : ∀ items matcher, compileGroup items = .ok matcher → matcher.Plain)
    {body : List Token} {matcher : Matcher}
    (made : bodyMatcher functions compileGroup body = .ok matcher) : matcher.Plain := by
  obtain ⟨matchers, all, same⟩ := Result.map_eq_ok_iff.mp made
  subst same
  apply Matcher.plain_choiceOf
  intro alternative member
  obtain ⟨sequence, _, found⟩ := Result.exists_of_mem_mapM all member
  exact plain_of_sequenceMatcher groups found

theorem plain_of_compileWithin {depth : Nat} {body : List Token} {matcher : Matcher}
    (made : compileWithin functions depth body = .ok matcher) : matcher.Plain := by
  induction depth generalizing body matcher with
  | zero => exact plain_of_bodyMatcher (fun _ _ impossible => by cases impossible) made
  | succ depth ih => exact plain_of_bodyMatcher (fun _ _ found => ih found) made

theorem formMatcher_congr {tokens : List Token}
    (same : ∀ bracket items, Token.group bracket items ∈ tokens →
      compileGroup items = other items) :
    formMatcher functions compileGroup tokens = formMatcher functions other tokens := by
  unfold formMatcher
  split
  · rfl
  next form found =>
      cases atom : form.atom with
      | group items =>
          obtain ⟨bracket, member⟩ := Form.group_mem_of_ofTokens? found atom
          simp only [atomMatcher, same bracket items member]
      | _ => rfl

theorem bodyMatcher_congr {body : List Token}
    (same : ∀ bracket items, Token.group bracket items ∈ body → compileGroup items = other items) :
    bodyMatcher functions compileGroup body = bodyMatcher functions other body := by
  unfold bodyMatcher
  congr 1
  apply Result.mapM_congr
  intro sequence cut
  unfold sequenceMatcher
  cases found : Body.elements sequence with
  | error problem => rfl
  | ok elements =>
      have all : elements.mapM (elementMatcher functions compileGroup) =
          elements.mapM (elementMatcher functions other) := by
        apply Result.mapM_congr
        intro element member
        unfold elementMatcher
        congr 1
        apply formMatcher_congr
        intro bracket items inside
        exact same bracket items
          (Body.mem_of_mem_alternatives cut (Body.mem_of_mem_elementsFrom found member inside))
      simp only [bind, Except.bind, all]

theorem depth_le_depthOfAll {token : Token} {tokens : List Token} (member : token ∈ tokens) :
    token.depth ≤ Token.depthOfAll tokens := by
  induction tokens with
  | nil => cases member
  | cons first rest ih =>
      simp only [Token.depthOfAll]
      rcases List.mem_cons.mp member with same | later
      · subst same
        exact Nat.le_max_left _ _
      · exact Nat.le_trans (ih later) (Nat.le_max_right _ _)

theorem depthOfAll_lt_of_group_mem {bracket : Bracket} {items tokens : List Token}
    (member : Token.group bracket items ∈ tokens) :
    Token.depthOfAll items < Token.depthOfAll tokens :=
  depth_le_depthOfAll member

theorem compileWithin_succ {depth : Nat} {body : List Token}
    (enough : Token.depthOfAll body ≤ depth) :
    compileWithin functions (depth + 1) body = compileWithin functions depth body := by
  induction depth generalizing body with
  | zero =>
      apply bodyMatcher_congr
      intro bracket items member
      have deeper := depthOfAll_lt_of_group_mem member
      omega
  | succ depth ih =>
      apply bodyMatcher_congr
      intro bracket items member
      have deeper := depthOfAll_lt_of_group_mem member
      exact ih (by omega)

theorem compileWithin_eq_compileBody {depth : Nat} {body : List Token}
    (enough : Token.depthOfAll body ≤ depth) :
    compileWithin functions depth body = compileBody functions body := by
  induction enough with
  | refl => rfl
  | step enough ih =>
      rw [compileWithin_succ enough]
      exact ih

end Compilation

theorem plain_of_compileBody {functions : FunctionTable} {body : List Token} {matcher : Matcher}
    (made : compileBody functions body = .ok matcher) : matcher.Plain :=
  Compilation.plain_of_compileWithin made

theorem compileBody_eq (functions : FunctionTable) (body : List Token) :
    compileBody functions body =
      Compilation.bodyMatcher functions (compileBody functions) body := by
  rw [← Compilation.compileWithin_eq_compileBody (Nat.le_succ (Token.depthOfAll body))]
  apply Compilation.bodyMatcher_congr
  intro bracket items member
  have deeper := Compilation.depthOfAll_lt_of_group_mem member
  exact Compilation.compileWithin_eq_compileBody (by omega)

end TokenGrammar
