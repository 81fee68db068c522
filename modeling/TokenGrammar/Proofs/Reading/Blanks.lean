import Mathlib.Data.List.DropRight
import TokenGrammar.Proofs.Reading.Scan
/-!
What stands between lexemes. Blanks, commas and comments are skipped together, and what is left starts with
none of them; trimming takes blanks only.
-/

namespace TokenGrammar

namespace Text

theorem trimEnd_append {back : List Char} (more : trimEnd back ≠ []) (front : List Char) :
    trimEnd (front ++ back) = front ++ trimEnd back := by
  have some : (back.reverse.dropWhile isBlank).isEmpty = false := by
    rw [trimEnd, ne_eq, List.reverse_eq_nil_iff] at more
    simpa using more
  rw [trimEnd, trimEnd, List.reverse_append, List.dropWhile_append, some, if_neg Bool.false_ne_true,
    List.reverse_append, List.reverse_reverse]

theorem all_isBlank_of_trimEnd {text : List Char} (nothing : trimEnd text = []) :
    ∀ character ∈ text, isBlank character = true := List.rdropWhile_eq_nil_iff.mp nothing

theorem head?_of_trimEnd {text : List Char} {first : Char}
    (starts : (trimEnd text).head? = some first) : text.head? = some first := by
  obtain ⟨blanks, whole⟩ := List.rdropWhile_prefix isBlank (l := text)
  rw [← whole, List.head?_append]
  change ((trimEnd text).head?.or _) = _
  rw [starts]
  rfl

theorem trimStart_append (front back : List Char) : trimStart (front ++ back) =
    if (trimStart front).isEmpty then trimStart back else trimStart front ++ back :=
  List.dropWhile_append

end Text

namespace Reading

theorem head_drop_blankLength {comment : Bool} {text : List Char} {first : Char} {rest : List Char}
    (left : text.drop (blankLength comment text) = first :: rest) :
    Text.isBlank first = false ∧ first ≠ ',' ∧ first ≠ ';' := by
  induction text generalizing comment with
  | nil => cases left
  | cons character text ih =>
      rw [blankLength] at left
      split at left
      next => exact ih left
      split at left
      next => exact ih left
      split at left
      next => exact ih left
      next unblank semicolon =>
          cases left
          simp only [Bool.or_eq_true, not_or, beq_iff_eq, Bool.not_eq_true] at unblank semicolon
          exact ⟨unblank.1, unblank.2, semicolon⟩

theorem blankLength_drop (text : List Char) :
    blankLength false (text.drop (blankLength false text)) = 0 := by
  cases left : text.drop (blankLength false text) with
  | nil => rfl
  | cons first rest =>
      obtain ⟨unblank, comma, semicolon⟩ := head_drop_blankLength left
      exact blankLength_cons_eq_zero unblank comma semicolon rest

section Blanks

variable {text : List Char}

theorem drop_blankLength_of_trimStart {first : Char} {rest : List Char}
    (starts : Text.trimStart text = first :: rest) (comma : first ≠ ',') (semicolon : first ≠ ';') :
    text.drop (blankLength false text) = first :: rest := by
  induction text with
  | nil => cases starts
  | cons character text ih =>
      rw [Text.trimStart, List.dropWhile_cons] at starts
      by_cases blank : Text.isBlank character = true
      · rw [if_pos blank] at starts
        simpa [blankLength, blank] using ih starts
      · rw [if_neg blank] at starts
        cases starts
        simp [blankLength, blank, comma, semicolon]

theorem drop_blankLength_cons {first : Char}
    (skipped : Text.isBlank first = true ∨ first = ',' ∨ first = ';') (rest : List Char) :
    (first :: rest).drop (blankLength false (first :: rest)) =
      rest.drop (blankLength (first == ';') rest) := by
  have seen : Text.isBlank ';' = false := by decide
  by_cases comment : first = ';'
  · subst comment
    simp [blankLength, seen]
  · have outside : Text.isBlank first = true ∨ first = ',' := by simpa [comment] using skipped
    rw [beq_eq_false_iff_ne.mpr comment]
    simp [blankLength, outside]

theorem drop_blankLength_of_all_isBlank (blank : ∀ character ∈ text, Text.isBlank character = true)
    (comment : Bool) : text.drop (blankLength comment text) = [] := by
  induction text generalizing comment with
  | nil => exact List.drop_nil
  | cons character rest ih =>
      obtain ⟨own, others⟩ := List.forall_mem_cons.mp blank
      cases comment <;> simp [blankLength, own, ih others]

theorem eq_mark_of_trimStart {mark : Char} {rest : List Char}
    (left : Text.trimStart (text.take (blankLength false text)) = mark :: rest) :
    mark = ',' ∨ mark = ';' := by
  induction text with
  | nil => cases left
  | cons character text ih =>
      by_cases blank : Text.isBlank character = true
      · refine ih ?_
        simpa [Text.trimStart, blankLength, blank] using left
      · have mark : character = ',' ∨ character = ';' := by
          by_contra plain
          obtain ⟨comma, semicolon⟩ := not_or.mp plain
          rw [blankLength_cons_eq_zero (by simpa using blank) comma semicolon] at left
          cases left
        rcases mark with rfl | rfl
        · simp [Text.trimStart, blankLength, blank] at left
          exact .inl left.1.symm
        · simp [Text.trimStart, blankLength, blank] at left
          exact .inr left.1.symm

theorem blankLength_append_cons {comment : Bool} {gap rest : List Char} {first : Char}
    (skipped : blankLength comment (gap ++ first :: rest) = gap.length) (other : List Char) :
    blankLength comment (gap ++ first :: other) = gap.length := by
  induction gap generalizing comment with
  | nil =>
      rw [List.nil_append, blankLength] at skipped ⊢
      repeat' split at skipped
      all_goals simp_all
  | cons character gap ih =>
      rw [List.cons_append, blankLength] at skipped ⊢
      split at skipped
      next inside =>
          rw [if_pos inside, ih (Nat.succ.inj skipped), List.length_cons]
      split at skipped
      next outside seen =>
          rw [if_neg outside, if_pos seen, ih (Nat.succ.inj skipped), List.length_cons]
      split at skipped
      next outside unseen semicolon =>
          rw [if_neg outside, if_neg unseen, if_pos semicolon, ih (Nat.succ.inj skipped),
            List.length_cons]
      next => cases skipped

theorem drop_blankLength_line {comment : Bool} {text : List Char}
    (blank : text.drop (blankLength comment text) = []) (after : List Char) :
    (text ++ '\n' :: after).drop (blankLength comment (text ++ '\n' :: after)) =
      after.drop (blankLength false after) := by
  induction text generalizing comment with
  | nil =>
      have feed : Text.isBlank '\n' = true := by decide
      cases comment <;> simp [blankLength, feed]
  | cons character rest ih =>
      rw [blankLength] at blank
      rw [List.cons_append, blankLength]
      split at blank
      next inside =>
          rw [if_pos inside]
          exact ih blank
      split at blank
      next outside seen =>
          rw [if_neg outside, if_pos seen]
          exact ih blank
      split at blank
      next outside unseen semicolon =>
          rw [if_neg outside, if_neg unseen, if_pos semicolon]
          exact ih blank
      next => cases blank

theorem drop_blankLength_append {comment : Bool} {text : List Char}
    (more : text.drop (blankLength comment text) ≠ []) (after : List Char) :
    (text ++ after).drop (blankLength comment (text ++ after)) =
      text.drop (blankLength comment text) ++ after := by
  induction text generalizing comment with
  | nil => exact absurd List.drop_nil more
  | cons character rest ih =>
      rw [blankLength] at more ⊢
      rw [List.cons_append, blankLength]
      split at more
      next inside =>
          rw [if_pos inside, if_pos inside]
          exact ih more
      split at more
      next outside seen =>
          rw [if_neg outside, if_pos seen, if_neg outside, if_pos seen]
          exact ih more
      split at more
      next outside unseen semicolon =>
          rw [if_neg outside, if_neg unseen, if_pos semicolon, if_neg outside, if_neg unseen,
            if_pos semicolon]
          exact ih more
      next outside unseen unmarked =>
          rw [if_neg outside, if_neg unseen, if_neg unmarked, if_neg outside, if_neg unseen,
            if_neg unmarked]
          rfl

theorem blankLength_le (comment : Bool) (text : List Char) :
    blankLength comment text ≤ text.length := by
  fun_induction blankLength comment text <;> simp_all

/-- Blanks, commas and comments, and nothing else. A comment goes on to the end of its line, or of the text. -/
inductive Skippable : List Char → Prop
  | nil : Skippable []
  | separator {character : Char} {rest : List Char}
      (separates : Text.isBlank character = true ∨ character = ',') (more : Skippable rest) :
      Skippable (character :: rest)
  | comment {words rest : List Char} (inside : '\n' ∉ words) (more : Skippable rest) :
      Skippable (';' :: (words ++ '\n' :: rest))
  | lastComment {words : List Char} (inside : '\n' ∉ words) : Skippable (';' :: words)

theorem drop_blankLength_of_comment {words : List Char} (inside : '\n' ∉ words) :
    words.drop (blankLength true words) = [] := by
  induction words with
  | nil => rfl
  | cons character words ih =>
      obtain ⟨other, later⟩ := not_or.mp (List.mem_cons.not.mp inside)
      have going : (character != '\n') = true := bne_iff_ne.mpr (Ne.symm other)
      simpa [blankLength, going] using ih later

theorem drop_blankLength_of_skippable (skippable : Skippable text) :
    text.drop (blankLength false text) = [] := by
  induction skippable with
  | nil => rfl
  | separator separates _ ih => simpa [blankLength, separates] using ih
  | comment inside _ ih =>
      rw [drop_blankLength_cons (.inr (.inr rfl)), beq_self_eq_true,
        drop_blankLength_line (drop_blankLength_of_comment inside)]
      exact ih
  | lastComment inside =>
      rw [drop_blankLength_cons (.inr (.inr rfl)), beq_self_eq_true]
      exact drop_blankLength_of_comment inside

theorem skippable_of_drop_blankLength (skipped : text.drop (blankLength false text) = []) :
    Skippable text := by
  -- On the length, since a comment is left out as a whole.
  induction size : text.length using Nat.strong_induction_on generalizing text with
  | _ size ih =>
      cases text with
      | nil => exact .nil
      | cons first rest =>
          rw [List.length_cons] at size
          by_cases separates : Text.isBlank first = true ∨ first = ','
          · refine .separator separates (ih rest.length (by omega) ?_ rfl)
            simpa [blankLength, separates] using skipped
          by_cases semicolon : first = ';'
          · subst semicolon
            by_cases fed : '\n' ∈ rest
            · obtain ⟨words, others, same, inside⟩ := List.eq_append_cons_of_mem fed
              subst same
              rw [drop_blankLength_cons (.inr (.inr rfl)), beq_self_eq_true,
                drop_blankLength_line (drop_blankLength_of_comment inside)] at skipped
              rw [List.length_append, List.length_cons] at size
              exact .comment inside (ih others.length (by omega) skipped rfl)
            · exact .lastComment fed
          · obtain ⟨seen, comma⟩ := not_or.mp separates
            rw [blankLength_cons_eq_zero (Bool.eq_false_iff.mpr seen) comma semicolon] at skipped
            cases skipped

end Blanks

end Reading

end TokenGrammar
