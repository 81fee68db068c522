import Mathlib.Data.List.DropRight
import TokenGrammar.Proofs.Reading.Image
/-!
Where lexemes and errors are placed. A cursor stands at the place to which its way through the text leads,
so that a lexeme is placed at its first character, and an error at a character of the text or at its end.
An error between lexemes is placed at one of them, since the end of the text is a lexeme itself.
-/

namespace TokenGrammar

namespace Position

/-- The place behind the first characters of a text: a line for every line feed among them, and a column
for every character behind the last of these. -/
def inText (text : List Char) (offset : Nat) : Position :=
  ⟨1 + (text.take offset).count '\n', 1 + ((text.take offset).rtakeWhile (· ≠ '\n')).length⟩

theorem afterAll_start (text : List Char) :
    start.afterAll text = ⟨1 + text.count '\n', 1 + (text.rtakeWhile (· ≠ '\n')).length⟩ := by
  induction text using List.reverseRecOn with
  | nil => rfl
  | append_singleton front last ih =>
      unfold afterAll at ih ⊢
      rw [List.foldl_append, ih, List.rtakeWhile_concat]
      by_cases feed : last = '\n'
      · simp [after, feed, Nat.add_assoc]
      · simp [after, feed, Nat.add_assoc]

theorem afterAll_inText (text : List Char) (offset count : Nat) :
    (inText text offset).afterAll ((text.drop offset).take count) = inText text (offset + count) := by
  rw [inText, inText, ← afterAll_start, ← afterAll_start, List.take_add]
  unfold afterAll
  rw [List.foldl_append]

end Position

namespace Lexeme

def BeginsWith (first : Char) : Lexeme → Prop
  | .opening bracket => first = bracket.opening
  | .closing bracket => first = bracket.closing
  | .quote => first = '\''
  | .symbol name => name.toList.head? = some first
  | .text _ => first = '"'
  | .integer _ | .float _ => first.isDigit = true ∨ first = '-' ∨ first = '+'
  | .character _ => first = '\\'
  | .endOfText => False

end Lexeme

namespace Reading

theorem digit_or_sign_of_splitSign {first : Char} {rest : List Char}
    (number : startsWithDigit (Binary64.splitSign (first :: rest)).2 = true) :
    first.isDigit = true ∨ first = '-' ∨ first = '+' := by
  by_cases signed : first = '-' ∨ first = '+'
  · exact .inr signed
  · have unsigned : ∀ sign behind, first :: rest = sign :: behind → sign ≠ '-' ∧ sign ≠ '+' := by
      intro sign behind same
      cases same
      exact not_or.mp signed
    rw [splitSign_of_unsigned unsigned] at number
    exact .inl number

theorem beginsWith_of_atomOf {first : Char} {rest : List Char} {lexeme : Lexeme}
    (atom : atomOf (first :: rest) = .ok lexeme) : lexeme.BeginsWith first := by
  by_cases number : startsWithDigit (Binary64.splitSign (first :: rest)).2 = true
  · have numeric := digit_or_sign_of_splitSign number
    unfold startsWithDigit at number
    unfold atomOf at atom
    dsimp only at atom
    rw [if_pos number] at atom
    repeat' split at atom
    all_goals first | cases atom; exact numeric | cases atom
  · rw [atomOf_eq_symbol (Bool.eq_false_iff.mpr number)] at atom
    cases atom
    simp [Lexeme.BeginsWith]

theorem beginsWith_of_scan {first : Char} {rest : List Char} {lexeme : Lexeme}
    (found : (scan (first :: rest)).1 = .ok lexeme) : lexeme.BeginsWith first := by
  unfold scan at found
  dsimp only at found
  split at found
  next same => cases found; exact same
  split at found
  next same => cases found; exact same
  split at found
  next same => cases found; exact same
  split at found
  next same => cases found; exact same
  split at found
  next same => cases found; exact same
  split at found
  next same =>
      obtain ⟨value, _, rfl⟩ := Result.map_eq_ok_iff.mp found
      exact same
  split at found
  next same =>
      obtain ⟨value, _, rfl⟩ := Result.map_eq_ok_iff.mp found
      exact same
  next => exact beginsWith_of_atomOf found

end Reading

namespace Cursor

structure StandsIn (cursor : Cursor) (text : List Char) (offset : Nat) : Prop where
  inside : offset ≤ text.length
  rest : cursor.rest = text.drop offset
  position : cursor.position = .inText text offset

variable {cursor : Cursor} {text : List Char} {offset : Nat}

theorem standsIn_ofText (source : String) : (ofText source).StandsIn source.toList 0 :=
  ⟨Nat.zero_le _, rfl, rfl⟩

theorem StandsIn.advance (stands : cursor.StandsIn text offset) (count : Nat) :
    (cursor.advance count).StandsIn text (min (offset + count) text.length) := by
  refine ⟨Nat.min_le_right _ _, ?_, ?_⟩
  · simp only [Cursor.advance, stands.rest, List.drop_drop]
    by_cases within : offset + count ≤ text.length
    · rw [Nat.min_eq_left within]
    · rw [Nat.min_eq_right (by omega), List.drop_length, List.drop_eq_nil_of_le (by omega)]
  · simp only [Cursor.advance, stands.rest, stands.position, Position.afterAll_inText]
    rw [Position.inText, Position.inText, ← List.take_take, List.take_length]

theorem StandsIn.exists_skipBlanks (stands : cursor.StandsIn text offset) :
    ∃ first, offset ≤ first ∧ cursor.skipBlanks.StandsIn text first ∧
      Reading.blankLength false (text.drop first) = 0 := by
  refine ⟨_, Nat.le_min.mpr ⟨Nat.le_add_right _ _, stands.inside⟩, stands.advance _, ?_⟩
  rw [← (stands.advance _).rest]
  exact Reading.blankLength_drop cursor.rest

theorem next_snd (cursor : Cursor) :
    cursor.next.2 = cursor.skipBlanks.advance (Reading.scan cursor.skipBlanks.rest).2 := by
  unfold next
  dsimp only
  split <;> rfl

theorem position_of_next_error {error : ReadError} (found : cursor.next.1 = .error error) :
    error.position = cursor.next.2.position := by
  unfold next at found ⊢
  dsimp only at found ⊢
  split at found
  next => cases found
  next => cases found; rfl

theorem position_of_next {placed : PlacedLexeme} (found : cursor.next.1 = .ok placed) :
    placed.position = cursor.skipBlanks.position := by
  unfold next at found
  dsimp only at found
  split at found
  next => cases found; rfl
  next => cases found

theorem StandsIn.exists_next (stands : cursor.StandsIn text offset) :
    ∃ behind, cursor.next.2.StandsIn text behind := by
  obtain ⟨first, _, start, _⟩ := stands.exists_skipBlanks
  rw [next_snd]
  exact ⟨_, start.advance _⟩

end Cursor

/-- The lexeme is the one that the text has at an offset, and it is placed there. -/
structure PlacedLexeme.StandsAt (text : List Char) (offset : Nat) (placed : PlacedLexeme) : Prop where
  inside : offset ≤ text.length
  position : placed.position = .inText text offset
  unblank : Reading.blankLength false (text.drop offset) = 0
  scanned : (Reading.scan (text.drop offset)).1 = .ok placed.lexeme
  first : ∀ first, text[offset]? = some first → placed.lexeme.BeginsWith first
  ended : placed.lexeme = .endOfText ↔ offset = text.length

namespace Cursor

variable {cursor : Cursor} {text : List Char} {offset : Nat}

theorem StandsIn.standsAt (start : cursor.skipBlanks.StandsIn text offset)
    (unblank : Reading.blankLength false (text.drop offset) = 0) {placed : PlacedLexeme}
    (found : cursor.next.1 = .ok placed) : placed.StandsAt text offset := by
  obtain ⟨length, taken, _⟩ := Reading.scan_of_next found
  have scanned : (Reading.scan (text.drop offset)).1 = .ok placed.lexeme := by
    rw [← start.rest, taken]
  refine ⟨start.inside, (position_of_next found).trans start.position, unblank, scanned, ?_, ?_⟩
  · intro first here
    rw [← List.head?_drop, List.head?_eq_some_iff] at here
    obtain ⟨rest, left⟩ := here
    rw [left] at scanned
    exact Reading.beginsWith_of_scan scanned
  · constructor
    · intro ended
      cases left : text.drop offset with
      | nil =>
          have passed := List.drop_eq_nil_iff.mp left
          exact Nat.le_antisymm start.inside passed
      | cons first rest =>
          rw [left, ended] at scanned
          exact absurd scanned Reading.scan_ne_endOfText
    · intro last
      rw [last, List.drop_length] at scanned
      exact (Except.ok.inj scanned).symm

theorem StandsIn.lt_next (start : cursor.skipBlanks.StandsIn text offset) {placed : PlacedLexeme}
    (found : cursor.next.1 = .ok placed) (more : placed.lexeme ≠ .endOfText) :
    ∃ behind, offset < behind ∧ cursor.next.2.StandsIn text behind := by
  rw [next_snd]
  refine ⟨_, ?_, start.advance _⟩
  obtain ⟨length, taken, _⟩ := Reading.scan_of_next found
  cases left : cursor.skipBlanks.rest with
  | nil =>
      rw [left] at taken
      exact absurd (Except.ok.inj (congrArg Prod.fst taken)).symm more
  | cons first rest =>
      have covered := Reading.one_le_scan_length first rest
      have size := congrArg List.length (start.rest.symm.trans left)
      rw [List.length_drop, List.length_cons] at size
      omega

theorem StandsIn.exists_offsets (stands : cursor.StandsIn text offset) {placed : List PlacedLexeme}
    (found : cursor.lexemes = .ok placed) :
    ∃ offsets, (∀ first ∈ offsets, offset ≤ first) ∧ offsets.Pairwise (· < ·) ∧
      List.Forall₂ (PlacedLexeme.StandsAt text) offsets placed := by
  rw [Cursor.lexemes] at found
  fun_induction Cursor.steps cursor generalizing offset placed with
  | case1 cursor more ih =>
      obtain ⟨one, others, here, later, same⟩ := Result.mapM_cons_eq_ok_iff.mp found
      subst same
      rw [id_eq] at here
      rw [here, ← Bool.not_eq_true, Reading.isEnd_ok_iff] at more
      obtain ⟨first, reached, start, unblank⟩ := stands.exists_skipBlanks
      obtain ⟨behind, further, next⟩ := start.lt_next here more
      obtain ⟨offsets, beyond, growing, all⟩ := ih next later
      refine ⟨first :: offsets, ?_, ?_, .cons (start.standsAt unblank here) all⟩
      · refine List.forall_mem_cons.mpr ⟨reached, fun other member => ?_⟩
        have bound := beyond other member
        omega
      · refine List.pairwise_cons.mpr ⟨fun other member => ?_, growing⟩
        have bound := beyond other member
        omega
  | case2 cursor ended =>
      obtain ⟨one, others, here, later, same⟩ := Result.mapM_cons_eq_ok_iff.mp found
      subst same
      cases later
      obtain ⟨first, reached, start, unblank⟩ := stands.exists_skipBlanks
      refine ⟨[first], List.forall_mem_singleton.mpr reached, List.pairwise_singleton _ _, ?_⟩
      exact .cons (start.standsAt unblank here) .nil

theorem StandsIn.exists_of_error (stands : cursor.StandsIn text offset) {error : ReadError}
    (member : .error error ∈ cursor.steps) :
    ∃ behind ≤ text.length, error.position = .inText text behind := by
  fun_induction Cursor.steps cursor generalizing offset with
  | case1 cursor _ ih =>
      obtain ⟨behind, next⟩ := stands.exists_next
      rcases List.mem_cons.mp member with here | later
      · exact ⟨behind, next.inside, (position_of_next_error here.symm).trans next.position⟩
      · exact ih next later
  | case2 cursor _ =>
      obtain ⟨behind, next⟩ := stands.exists_next
      have here := List.mem_singleton.mp member
      exact ⟨behind, next.inside, (position_of_next_error here.symm).trans next.position⟩

end Cursor

namespace Reading

theorem exists_position_of_formsFrom {frames : List Frame} {placed : List PlacedLexeme}
    {error : ReadError} (ended : ∃ one ∈ placed, one.lexeme = .endOfText)
    (failed : (formsFrom frames placed).1 = .error error) :
    ∃ one ∈ placed, error.position = one.position := by
  fun_induction formsFrom frames placed with
  | case1 | case3 => cases failed
  | case2 =>
      obtain ⟨one, member, _⟩ := ended
      cases member
  | case4 frames one rest _ inner accepted ih =>
      have behind := ((List.exists_mem_cons_iff ..).mp ended).resolve_left
        (ne_endOfText_of_accept accepted (by simp))
      obtain ⟨other, member, same⟩ := ih behind failed
      exact ⟨other, List.mem_cons_of_mem _ member, same⟩
  | case5 frames one rest _ token accepted others left found ih =>
      have behind := ((List.exists_mem_cons_iff ..).mp ended).resolve_left
        (ne_endOfText_of_accept accepted (by simp))
      rw [found] at ih
      obtain ⟨other, member, same⟩ := ih behind (Result.map_eq_error_iff.mp failed)
      exact ⟨other, List.mem_cons_of_mem _ member, same⟩
  | case6 frames one rest _ fault _ =>
      cases failed
      exact ⟨one, List.mem_cons_self, rfl⟩

theorem ended_of_lexemes {cursor : Cursor} {placed : List PlacedLexeme}
    (found : cursor.lexemes = .ok placed) : ∃ one ∈ placed, one.lexeme = .endOfText := by
  obtain ⟨front, shape, _⟩ := (lexes_of_lexemes found).exists_front
  have last : Lexeme.endOfText ∈ placed.map (·.lexeme) := by
    rw [shape]
    exact List.mem_append_right _ List.mem_cons_self
  exact List.mem_map.mp last

/-- An error of reading is placed behind some of the characters of the text, in lines and columns that are
counted from one; and the lexemes of a text are placed at their first characters, one behind the other. -/
theorem placed_of_read (source : String) :
    (∀ error, read source = .error error → ∃ offset ≤ source.toList.length,
      error.position.line = 1 + (source.toList.take offset).count '\n' ∧
      error.position.column = 1 + ((source.toList.take offset).rtakeWhile (· ≠ '\n')).length) ∧
    ∀ placed, (Cursor.ofText source).lexemes = .ok placed →
      ∃ offsets, offsets.Pairwise (· < ·) ∧
        List.Forall₂ (PlacedLexeme.StandsAt source.toList) offsets placed := by
  have start := Cursor.standsIn_ofText source
  refine ⟨fun error failed => ?_, fun placed found => ?_⟩
  · suffices somewhere : ∃ offset ≤ source.toList.length,
        error.position = .inText source.toList offset by
      obtain ⟨offset, inside, same⟩ := somewhere
      exact ⟨offset, inside, same ▸ rfl, same ▸ rfl⟩
    unfold read at failed
    cases lexed : (Cursor.ofText source).lexemes with
    | error problem =>
        rw [lexed] at failed
        cases failed
        obtain ⟨found, member, same⟩ := Result.exists_of_mapM_eq_error lexed
        rw [id_eq] at same
        exact start.exists_of_error (same ▸ member)
    | ok placed =>
        rw [lexed] at failed
        obtain ⟨offsets, _, _, all⟩ := start.exists_offsets lexed
        obtain ⟨one, member, same⟩ := exists_position_of_formsFrom (ended_of_lexemes lexed) failed
        obtain ⟨offset, _, stands⟩ := Result.exists_of_mem_forall₂ all member
        exact ⟨offset, stands.inside, same.trans stands.position⟩
  · obtain ⟨offsets, _, growing, all⟩ := start.exists_offsets found
    exact ⟨offsets, growing, all⟩

/-- A string that is open at the end of the text, a bracket too many in the second line, and lexemes behind a
comment. -/
theorem placed_of_read_lines :
    read "[1\n \"a\n" = .error ⟨.unclosedText, ⟨3, 1⟩⟩ ∧
    read "(a) ; b\n ])" = .error ⟨.unexpectedClosing .square, ⟨2, 2⟩⟩ ∧
    (∃ offset ≤ "[1\n \"a\n".toList.length,
      3 = 1 + ("[1\n \"a\n".toList.take offset).count '\n' ∧
      1 = 1 + (("[1\n \"a\n".toList.take offset).rtakeWhile (· ≠ '\n')).length) ∧
    (∃ offset ≤ "(a) ; b\n ])".toList.length,
      2 = 1 + ("(a) ; b\n ])".toList.take offset).count '\n' ∧
      2 = 1 + (("(a) ; b\n ])".toList.take offset).rtakeWhile (· ≠ '\n')).length) ∧
    (Cursor.ofText ";\n 'x").lexemes =
      .ok [⟨.quote, ⟨2, 2⟩⟩, ⟨.symbol "x", ⟨2, 3⟩⟩, ⟨.endOfText, ⟨2, 4⟩⟩] ∧
    ∃ offsets, offsets.Pairwise (· < ·) ∧ List.Forall₂ (PlacedLexeme.StandsAt ";\n 'x".toList) offsets
      [⟨.quote, ⟨2, 2⟩⟩, ⟨.symbol "x", ⟨2, 3⟩⟩, ⟨.endOfText, ⟨2, 4⟩⟩] := by
  have unclosed : read "[1\n \"a\n" = .error ⟨.unclosedText, ⟨3, 1⟩⟩ := by with_unfolding_all rfl
  have closing : read "(a) ; b\n ])" = .error ⟨.unexpectedClosing .square, ⟨2, 2⟩⟩ := by
    with_unfolding_all rfl
  have lexed : (Cursor.ofText ";\n 'x").lexemes =
      .ok [⟨.quote, ⟨2, 2⟩⟩, ⟨.symbol "x", ⟨2, 3⟩⟩, ⟨.endOfText, ⟨2, 4⟩⟩] := by with_unfolding_all rfl
  exact ⟨unclosed, closing, (placed_of_read _).1 _ unclosed, (placed_of_read _).1 _ closing, lexed,
    (placed_of_read _).2 _ lexed⟩

end Reading

end TokenGrammar
