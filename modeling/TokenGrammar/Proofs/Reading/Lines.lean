import TokenGrammar.Proofs.Reading.Blanks
import TokenGrammar.Proofs.Reading.Lexing
/-!
Reading one text behind another. A line feed ends whatever a text that reads can end with, a bare word, the
name of a character or a comment, just as the end of the text does, and nothing is open then. So the
tokens of two texts with a line feed between them are those of the first and then those of the second.
-/

namespace TokenGrammar

namespace Reading

section Scanning

variable {after : List Char}

theorem stops_line (after : List Char) : Stops ('\n' :: after) := stops_cons (by decide) after

theorem scan_cases (first : Char) :
    (∃ lexeme, ∀ rest, scan (first :: rest) = (.ok lexeme, 1)) ∨ first = '"' ∨ first = '\\' ∨
      ∀ rest, scan (first :: rest) = (atomOf (first :: rest.takeWhile (!isDelimiter ·)),
        (rest.takeWhile (!isDelimiter ·)).length + 1) := by
  by_cases mark : first ∈ ['(', ')', '[', ']', '\'']
  · left
    simp only [List.mem_cons, List.not_mem_nil, or_false] at mark
    rcases mark with same | same | same | same | same <;> subst same <;> exact ⟨_, fun _ => rfl⟩
  by_cases quote : first = '"'
  · exact .inr (.inl quote)
  by_cases backslash : first = '\\'
  · exact .inr (.inr (.inl backslash))
  simp only [List.mem_cons, List.not_mem_nil, or_false, not_or] at mark
  refine .inr (.inr (.inr fun rest => ?_))
  simp [scan, mark, quote, backslash]

theorem scanText_length_le (text : List Char) : (scanText text).2 ≤ text.length := by
  fun_induction scanText text <;> simp_all

theorem scanCharacter_length_le (text : List Char) : (scanCharacter text).2 ≤ text.length := by
  cases text with
  | nil => exact Nat.le_refl 0
  | cons first rest =>
      have shorter := (List.takeWhile_sublist (!isDelimiter ·) (l := rest)).length_le
      rw [scanCharacter]
      split <;> simp [shorter]

theorem scan_length_le (text : List Char) : (scan text).2 ≤ text.length := by
  cases text with
  | nil => exact Nat.le_refl 0
  | cons first rest =>
      rcases scan_cases first with ⟨lexeme, mark⟩ | quote | backslash | word
      · simp [mark]
      · subst quote
        exact Nat.succ_le_succ (scanText_length_le rest)
      · subst backslash
        exact Nat.succ_le_succ (scanCharacter_length_le rest)
      · have shorter := (List.takeWhile_sublist (!isDelimiter ·) (l := rest)).length_le
        rw [word]
        exact Nat.succ_le_succ shorter

theorem scanText_append {text value : List Char} {length : Nat}
    (found : scanText text = (.ok value, length)) (after : List Char) :
    scanText (text ++ after) = (.ok value, length) := by
  fun_induction scanText text generalizing value length with
  | case1 => cases found
  | case2 =>
      cases found
      exact scanText_quote after
  | case3 => cases found
  | case4 => cases found
  | case5 =>
      cases found
      exact scanText_quote _
  | case6 next rest taken size scanned _ ih =>
      cases taken with
      | error problem => cases found
      | ok inner =>
          have further := ih scanned
          cases found
          rw [List.cons_append, List.cons_append, scanText_escape, further]
          rfl
  | case7 character next rest quote escape taken size scanned ih =>
      cases taken with
      | error problem => cases found
      | ok inner =>
          have further := ih scanned
          cases found
          rw [List.cons_append, scanText_plain quote escape (by simp), further]
          rfl

theorem scanCharacter_append {text : List Char} {value : Char} {length : Nat}
    (found : scanCharacter text = (.ok value, length)) (stops : Stops after) :
    scanCharacter (text ++ after) = (.ok value, length) := by
  cases text with
  | nil => cases found
  | cons first rest =>
      rw [List.cons_append, scanCharacter, takeWhile_append_of_stops stops, ← found]
      rfl

theorem scan_append {text : List Char} {lexeme : Lexeme} {length : Nat}
    (found : scan text = (.ok lexeme, length)) (more : lexeme ≠ .endOfText) (stops : Stops after) :
    scan (text ++ after) = (.ok lexeme, length) := by
  cases text with
  | nil =>
      cases found
      exact absurd rfl more
  | cons first rest =>
      rw [List.cons_append]
      rcases scan_cases first with ⟨mark, same⟩ | quote | backslash | word
      · rw [same] at found ⊢
        exact found
      · subst quote
        cases taken : scanText rest with
        | mk value size =>
        cases value with
        | error problem => simp [scan, taken, Except.map] at found
        | ok value =>
            have further := scanText_append taken after
            simp only [scan, taken] at found
            simp only [scan, further]
            exact found
      · subst backslash
        cases taken : scanCharacter rest with
        | mk value size =>
        cases value with
        | error problem => simp [scan, taken, Except.map] at found
        | ok value =>
            have further := scanCharacter_append taken stops
            simp only [scan, taken] at found
            simp only [scan, further]
            exact found
      · rw [word] at found ⊢
        rw [takeWhile_append_of_stops stops, found]

end Scanning

section Lexing

theorem Lexes.line {text after : List Char} {front lexemes : List Lexeme}
    (first : Lexes text (front ++ [.endOfText])) (second : Lexes after lexemes) :
    Lexes (text ++ '\n' :: after) (front ++ lexemes) := by
  induction front generalizing text with
  | nil =>
      cases first with
      | ended blank =>
          have skipped := drop_blankLength_line blank after
          cases second with
          | ended rest => exact .ended (skipped.trans rest)
          | next found more later =>
              rw [← skipped] at found later
              exact .next found more later
      | next _ more _ => exact absurd rfl more
  | cons lexeme front ih =>
      rw [List.cons_append] at first
      generalize ending : front ++ [Lexeme.endOfText] = rest at first
      cases first with
      | ended => simp at ending
      | next found more later =>
          subst ending
          have left : text.drop (blankLength false text) ≠ [] := by
            intro empty
            rw [empty] at found
            cases found
            exact more rfl
          have scanned := scan_append found more (stops_line after)
          have within := scan_length_le (text.drop (blankLength false text))
          rw [found] at within
          have skipped := drop_blankLength_append left ('\n' :: after)
          rw [← skipped] at scanned
          refine .next scanned more ?_
          rw [skipped, List.drop_append_of_le_length within]
          exact ih later

end Lexing

theorem Reads.line {text after : List Char} {tokens others : List Token} (first : Reads text tokens)
    (second : Reads after others) : Reads (text ++ '\n' :: after) (tokens ++ others) := by
  obtain ⟨lexemes, lexes, forms⟩ := first
  obtain ⟨behind, later, others⟩ := second
  refine ⟨lexemes ++ behind, ?_, forms.append others⟩
  rw [List.append_assoc]
  exact lexes.line later

theorem toList_line (source other : String) :
    (source ++ "\n" ++ other).toList = source.toList ++ '\n' :: other.toList := by
  rw [String.toList_append, String.toList_append, List.append_assoc]
  rfl

/-- Reading a text, a line feed and a text gives the tokens of the first and then those of the second. -/
theorem read_line {source other : String} {tokens others : List Token}
    (reads : read source = .ok tokens) (readsOther : read other = .ok others) :
    read (source ++ "\n" ++ other) = .ok (tokens ++ others) := by
  rw [read_eq_ok_iff, toList_line]
  exact (read_eq_ok_iff.mp reads).line (read_eq_ok_iff.mp readsOther)

/-- The first text ends inside a comment, right behind the name of a quoted character. -/
theorem read_line_comment :
    read "(x) '\\a; (" = .ok [.list [.symbol "x"], .quote (.character 'a')] ∧
    read "\\\"s" = .ok [.character '"', .symbol "s"] ∧
    read ("(x) '\\a; (" ++ "\n" ++ "\\\"s") =
      .ok ([.list [.symbol "x"], .quote (.character 'a')] ++ [.character '"', .symbol "s"]) := by
  have first : read "(x) '\\a; (" = .ok [.list [.symbol "x"], .quote (.character 'a')] := by
    with_unfolding_all rfl
  have second : read "\\\"s" = .ok [.character '"', .symbol "s"] := by
    with_unfolding_all rfl
  exact ⟨first, second, read_line first second⟩

end Reading

end TokenGrammar
