import TokenGrammar.Proofs.Integer
import TokenGrammar.Proofs.Reading.Image
/-!
Whole numbers in a text. Where a lexeme starts with a numeral and a delimiter or the end of the text follows,
the numeral is an integer with exactly its value, or it is out of range and so the text is not read.
-/

namespace TokenGrammar

namespace Integer.Numeral

variable (numeral : Numeral)

theorem splitSign_text :
    Binary64.splitSign numeral.text = (decide (numeral.sign = some '-'), numeral.digits) := by
  obtain ⟨sign, digits, signed, more, numeric⟩ := numeral
  cases sign with
  | none =>
      refine Reading.splitSign_of_unsigned fun first rest whole => ?_
      have member : first ∈ digits := List.mem_of_mem_head? (congrArg List.head? whole)
      have digit := numeric first member
      constructor <;> rintro rfl <;> cases digit
  | some sign => rcases signed sign rfl with rfl | rfl <;> rfl

theorem text_ne_nil : numeral.text ≠ [] := by
  simp [text, numeral.more]

theorem undelimited {character : Char} (member : character ∈ numeral.text) :
    Reading.isDelimiter character = false := by
  rcases List.mem_append.mp member with sign | digit
  · rcases numeral.signed character (Option.mem_toList.mp sign) with rfl | rfl <;> decide
  · exact Reading.isDelimiter_of_isDigit (numeral.numeric character digit)

theorem not_backslash : numeral.text.head? ≠ some '\\' := by
  intro backslash
  rcases List.mem_append.mp (List.mem_of_head? backslash) with sign | digit
  · rcases numeral.signed _ (Option.mem_toList.mp sign) with same | same <;> cases same
  · cases numeral.numeric _ digit

theorem atomOf_text : Reading.atomOf numeral.text =
    match ofInt? numeral.value with
    | some value => .ok (.integer value)
    | none => .error (.integerOutOfRange (String.ofList numeral.text)) := by
  have spelled := Reading.atomOf_digits numeral.splitSign_text numeral.more numeral.numeric
  simp only [← magnitude_eq, decide_eq_true_eq] at spelled
  exact spelled

theorem scan_text {after : List Char} (stops : Reading.Stops after) :
    Reading.scan (numeral.text ++ after) = (Reading.atomOf numeral.text, numeral.text.length) :=
  (Reading.scan_word numeral.text_ne_nil (fun _ member => numeral.undelimited member)
    numeral.not_backslash stops).2

end Integer.Numeral

namespace Reading

section Fronts

/-- These lexemes stand in front of the rest of a text, which starts without blanks. -/
inductive LexesUpTo : List Char → List Lexeme → List Char → Prop
  | here (text : List Char) : LexesUpTo text [] (text.drop (blankLength false text))
  | next {text rest : List Char} {lexeme : Lexeme} {length : Nat} {before : List Lexeme}
      (found : scan (text.drop (blankLength false text)) = (.ok lexeme, length))
      (more : lexeme ≠ .endOfText)
      (later : LexesUpTo ((text.drop (blankLength false text)).drop length) before rest) :
      LexesUpTo text (lexeme :: before) rest

variable {text rest : List Char} {before : List Lexeme}

theorem lexes_drop_iff {lexemes : List Lexeme} :
    Lexes (text.drop (blankLength false text)) lexemes ↔ Lexes text lexemes := by
  have start : (text.drop (blankLength false text)).drop
      (blankLength false (text.drop (blankLength false text))) =
        text.drop (blankLength false text) := by
    rw [blankLength_drop, List.drop_zero]
  constructor
  · intro lexes
    cases lexes with
    | ended blank => exact .ended (start.symm.trans blank)
    | next found more later =>
        rw [start] at found later
        exact .next found more later
  · intro lexes
    cases lexes with
    | ended blank => exact .ended (start.trans blank)
    | next found more later =>
        rw [← start] at found later
        exact .next found more later

theorem LexesUpTo.lexes_iff (upTo : LexesUpTo text before rest) {lexemes : List Lexeme} :
    Lexes text lexemes ↔ ∃ later, lexemes = before ++ later ∧ Lexes rest later := by
  induction upTo generalizing lexemes with
  | here text => simp [lexes_drop_iff]
  | @next text rest lexeme length before found more _ ih =>
      constructor
      · intro lexes
        cases lexes with
        | ended blank =>
            rw [blank] at found
            cases found
            exact absurd rfl more
        | next other _ later =>
            cases found.symm.trans other
            obtain ⟨behind, rfl, lexes⟩ := ih.mp later
            exact ⟨behind, rfl, lexes⟩
      · rintro ⟨behind, rfl, lexes⟩
        exact .next found more (ih.mpr ⟨behind, rfl, lexes⟩)

theorem LexesUpTo.snoc (upTo : LexesUpTo text before rest) {lexeme : Lexeme} {length : Nat}
    (found : scan rest = (.ok lexeme, length)) (more : lexeme ≠ .endOfText) :
    LexesUpTo text (before ++ [lexeme])
      ((rest.drop length).drop (blankLength false (rest.drop length))) := by
  induction upTo with
  | here text => exact .next found more (.here _)
  | next first further _ ih => exact .next first further (ih found)

theorem LexesUpTo.lexemes_eq_error (upTo : LexesUpTo text before rest) {fault : ReadFault}
    (failed : (scan rest).1 = .error fault) {cursor : Cursor} (same : cursor.rest = text) :
    ∃ position, cursor.lexemes = .error ⟨fault, position⟩ := by
  induction upTo generalizing cursor with
  | here text =>
      subst same
      have scanned : (scan cursor.skipBlanks.rest).1 = .error fault := failed
      have found : cursor.next.1 = .error ⟨fault, cursor.next.2.position⟩ := by
        simp only [Cursor.next, scanned]
      refine ⟨cursor.next.2.position, ?_⟩
      rw [Cursor.lexemes, Cursor.steps, dif_pos (by rw [found]; rfl), found]
      rfl
  | @next text rest lexeme length before found more _ ih =>
      subst same
      obtain ⟨position, behind⟩ := @ih failed (cursor.skipBlanks.advance length) rfl
      exact ⟨position, by rw [lexemes_of_scan found more, behind]; rfl⟩

end Fronts

section Numerals

variable {numeral : Integer.Numeral} {source : String} {before : List Lexeme} {after : List Char}

theorem scan_of_inRange (fits : Integer.InRange numeral.value) (stops : Stops after) :
    ∃ value : Int64, value.toInt = numeral.value ∧
      scan (numeral.text ++ after) = (.ok (.integer value), numeral.text.length) := by
  obtain ⟨value, known, exact⟩ := Integer.ofInt?_of_inRange fits
  exact ⟨value, exact, by rw [numeral.scan_text stops, numeral.atomOf_text, known]⟩

theorem scan_of_not_inRange (exceeds : ¬ Integer.InRange numeral.value) (stops : Stops after) :
    scan (numeral.text ++ after) =
      (.error (.integerOutOfRange (String.ofList numeral.text)), numeral.text.length) := by
  rw [numeral.scan_text stops, numeral.atomOf_text, Integer.ofInt?_of_not_inRange exceeds]

theorem LexesUpTo.read_eq_ok_iff {text : List Char} {lexeme : Lexeme}
    (upTo : LexesUpTo source.toList before (text ++ after))
    (found : scan (text ++ after) = (.ok lexeme, text.length)) (more : lexeme ≠ .endOfText)
    {tokens : List Token} : read source = .ok tokens ↔
      ∃ later, Lexes after (later ++ [.endOfText]) ∧
        DerivesAll (before ++ lexeme :: later) tokens := by
  have behind := upTo.snoc found more
  rw [List.drop_left] at behind
  rw [Reading.read_eq_ok_iff]
  constructor
  · rintro ⟨lexemes, lexes, forms⟩
    obtain ⟨later, whole, rest⟩ := behind.lexes_iff.mp lexes
    have rest := lexes_drop_iff.mp rest
    obtain ⟨front, rfl, _⟩ := rest.exists_front
    rw [← List.append_assoc] at whole
    rw [List.append_cancel_right whole, List.append_assoc] at forms
    exact ⟨front, rest, forms⟩
  · rintro ⟨later, rest, forms⟩
    have split : before ++ lexeme :: later = before ++ [lexeme] ++ later := by simp
    rw [split] at forms
    refine ⟨_, behind.lexes_iff.mpr ⟨_, ?_, lexes_drop_iff.mpr rest⟩, forms⟩
    rw [List.append_assoc]

/-- Where a lexeme starts with a numeral that nothing but a delimiter follows, the text has the integer of
exactly its value at this place, or it is not read since that is out of range. -/
theorem read_numeral (reached : LexesUpTo source.toList before (numeral.text ++ after))
    (stops : Stops after) :
    (Integer.InRange numeral.value → ∃ value : Int64, value.toInt = numeral.value ∧
      (∀ tokens, read source = .ok tokens ↔ ∃ later, Lexes after (later ++ [.endOfText]) ∧
        DerivesAll (before ++ .integer value :: later) tokens) ∧
      ∀ tokens, read source = .ok tokens → Token.integer value ∈ Token.leavesAll tokens) ∧
    (¬ Integer.InRange numeral.value → ∃ error, read source = .error error ∧
      error.fault.message = "Integer out of range: " ++ String.ofList numeral.text) := by
  constructor
  · intro fits
    obtain ⟨value, exact, scanned⟩ := scan_of_inRange fits stops
    have reads : ∀ tokens, read source = .ok tokens ↔ ∃ later, Lexes after (later ++ [.endOfText]) ∧
        DerivesAll (before ++ .integer value :: later) tokens :=
      fun _ => reached.read_eq_ok_iff scanned (by simp)
    refine ⟨value, exact, reads, fun tokens found => ?_⟩
    obtain ⟨later, _, forms⟩ := (reads tokens).mp found
    exact forms.mem_leavesAll (by simp) (.integer value)
  · intro exceeds
    have failed := congrArg Prod.fst (scan_of_not_inRange exceeds stops)
    have start : (Cursor.ofText source).rest = source.toList := rfl
    obtain ⟨position, found⟩ := reached.lexemes_eq_error failed start
    refine ⟨⟨.integerOutOfRange (String.ofList numeral.text), position⟩, ?_, rfl⟩
    rw [read, found]
    rfl

/-- The least integer with zeros in front, behind a bracket that is a character, and the first number that is
too large, in an open list. -/
theorem read_numeral_limits : ∃ least beyond : Integer.Numeral,
    least.text = "-009223372036854775808".toList ∧ Integer.InRange least.value ∧
    LexesUpTo "(\\( -009223372036854775808)".toList [.opening .round, .character '(']
      (least.text ++ [')']) ∧
    (∃ value : Int64, value.toInt = -2 ^ 63 ∧
      read "(\\( -009223372036854775808)" = .ok [.list [.character '(', .integer value]]) ∧
    beyond.text = "+9223372036854775808".toList ∧ ¬ Integer.InRange beyond.value ∧
    LexesUpTo "(+9223372036854775808".toList [.opening .round] (beyond.text ++ []) ∧
    ∃ error, read "(+9223372036854775808" = .error error ∧
      error.fault.message = "Integer out of range: +9223372036854775808" := by
  let least : Integer.Numeral :=
    ⟨some '-', "009223372036854775808".toList, by simp, by decide, List.all_eq_true.mp rfl⟩
  let beyond : Integer.Numeral :=
    ⟨some '+', "9223372036854775808".toList, by simp, by decide, List.all_eq_true.mp rfl⟩
  have opened : LexesUpTo "(\\( -009223372036854775808)".toList [.opening .round, .character '(']
      (least.text ++ [')']) :=
    @LexesUpTo.next _ _ _ 1 _ rfl (by simp) (@LexesUpTo.next _ _ _ 2 _ rfl (by simp) (.here _))
  have open' : LexesUpTo "(+9223372036854775808".toList [.opening .round] (beyond.text ++ []) :=
    @LexesUpTo.next _ _ _ 1 _ rfl (by simp) (.here _)
  have fits : Integer.InRange least.value := by decide
  have exceeds : ¬ Integer.InRange beyond.value := by decide
  obtain ⟨value, exact, reads, _⟩ := (read_numeral opened (stops_cons (by decide) [])).1 fits
  refine ⟨least, beyond, rfl, fits, opened, ⟨value, exact, ?_⟩, rfl, exceeds, open',
    (read_numeral open' stops_nil).2 exceeds⟩
  refine (reads _).mpr ⟨[.closing .round], (Lexes.ended rfl).closing .round, ?_⟩
  have items : DerivesAll [.character '(', .integer value] [.character '(', .integer value] :=
    (Derives.atom (.character '(')).alone.append (Derives.atom (.integer value)).alone
  exact (Derives.group .round items).alone

end Numerals

end Reading

end TokenGrammar
