import TokenGrammar.Proofs.Reading.Grammar
import TokenGrammar.Proofs.Result
/-!
What reading is, without its steps. The lexemes of a text stand one behind the other up to its end, and the
tokens that are read are those that the lexemes derive. Places only matter to errors.
-/

namespace TokenGrammar

namespace Reading

section Lexemes

/-- The text is made of these lexemes, with blanks before each, up to and with its end. -/
inductive Lexes : List Char → List Lexeme → Prop
  | ended {text : List Char} (blank : text.drop (blankLength false text) = []) :
      Lexes text [.endOfText]
  | next {text : List Char} {lexeme : Lexeme} {length : Nat} {lexemes : List Lexeme}
      (found : scan (text.drop (blankLength false text)) = (.ok lexeme, length))
      (more : lexeme ≠ .endOfText)
      (later : Lexes ((text.drop (blankLength false text)).drop length) lexemes) :
      Lexes text (lexeme :: lexemes)

theorem Lexes.exists_cons {text : List Char} {lexeme : Lexeme} {lexemes : List Lexeme}
    (lexes : Lexes text (lexeme :: lexemes)) (more : lexeme ≠ .endOfText) :
    ∃ length, scan (text.drop (blankLength false text)) = (.ok lexeme, length) ∧
      Lexes ((text.drop (blankLength false text)).drop length) lexemes := by
  cases lexes with
  | ended => exact absurd rfl more
  | next found _ later => exact ⟨_, found, later⟩

theorem next_of_scan {cursor : Cursor} {lexeme : Lexeme} {length : Nat}
    (found : scan cursor.skipBlanks.rest = (.ok lexeme, length)) :
    cursor.next = (.ok ⟨lexeme, cursor.skipBlanks.position⟩, cursor.skipBlanks.advance length) := by
  simp [Cursor.next, found]

theorem lexemes_of_scan {cursor : Cursor} {lexeme : Lexeme} {length : Nat}
    (found : scan cursor.skipBlanks.rest = (.ok lexeme, length)) (more : lexeme ≠ .endOfText) :
    cursor.lexemes = (cursor.skipBlanks.advance length).lexemes.map
      (⟨lexeme, cursor.skipBlanks.position⟩ :: ·) := by
  have start := next_of_scan found
  have going : Cursor.isEnd cursor.next.1 = false := by simp [start, Cursor.isEnd, more]
  rw [Cursor.lexemes, Cursor.steps, dif_pos going, start, List.mapM_cons, Cursor.lexemes]
  cases (cursor.skipBlanks.advance length).steps.mapM id <;> rfl

theorem Lexes.exists_placed {text : List Char} {lexemes : List Lexeme} (lexes : Lexes text lexemes)
    {cursor : Cursor} (same : cursor.rest = text) :
    ∃ placed, cursor.lexemes = .ok placed ∧ placed.map (·.lexeme) = lexemes := by
  induction lexes generalizing cursor with
  | @ended text blank =>
      subst same
      have start : cursor.skipBlanks.rest = [] := blank
      have found : cursor.next.1 = .ok ⟨.endOfText, cursor.skipBlanks.position⟩ := by
        simp [Cursor.next, start, scan]
      refine ⟨[⟨.endOfText, cursor.skipBlanks.position⟩], ?_, rfl⟩
      rw [Cursor.lexemes, Cursor.steps, found]
      rfl
  | @next text lexeme length lexemes found more _ ih =>
      subst same
      obtain ⟨others, behind, listed⟩ := @ih (cursor.skipBlanks.advance length) rfl
      refine ⟨⟨lexeme, cursor.skipBlanks.position⟩ :: others, ?_, by rw [← listed]; rfl⟩
      rw [lexemes_of_scan found more, behind]
      rfl

theorem scan_of_next {cursor : Cursor} {placed : PlacedLexeme} (found : cursor.next.1 = .ok placed) :
    ∃ length, scan cursor.skipBlanks.rest = (.ok placed.lexeme, length) ∧
      cursor.next.2.rest = cursor.skipBlanks.rest.drop length := by
  unfold Cursor.next at found ⊢
  dsimp only at found ⊢
  split at found
  next lexeme scanned =>
      cases found
      exact ⟨_, Prod.ext scanned rfl, rfl⟩
  next => cases found

theorem isEnd_ok_iff {placed : PlacedLexeme} :
    Cursor.isEnd (.ok placed) = true ↔ placed.lexeme = .endOfText := decide_eq_true_iff

theorem isEnd_next_iff {cursor : Cursor} :
    Cursor.isEnd cursor.next.1 = true ↔ cursor.skipBlanks.rest = [] := by
  constructor
  · intro ended
    cases found : cursor.next.1 with
    | error problem =>
        rw [found] at ended
        cases ended
    | ok placed =>
        rw [found, isEnd_ok_iff] at ended
        obtain ⟨length, scanned, _⟩ := scan_of_next found
        cases left : cursor.skipBlanks.rest with
        | nil => rfl
        | cons first rest =>
            rw [left, ended] at scanned
            exact absurd (congrArg Prod.fst scanned) scan_ne_endOfText
  · intro nothing
    simp [Cursor.next, nothing, scan, Cursor.isEnd]

theorem lexes_of_lexemes {cursor : Cursor} {placed : List PlacedLexeme}
    (found : cursor.lexemes = .ok placed) : Lexes cursor.rest (placed.map (·.lexeme)) := by
  rw [Cursor.lexemes] at found
  fun_induction Cursor.steps cursor generalizing placed with
  | case1 cursor more ih =>
      obtain ⟨first, others, here, later, same⟩ := Result.mapM_cons_eq_ok_iff.mp found
      subst same
      rw [id_eq] at here
      obtain ⟨length, scanned, behind⟩ := scan_of_next here
      rw [here, ← Bool.not_eq_true, isEnd_ok_iff] at more
      have further := ih later
      rw [behind] at further
      exact .next scanned more further
  | case2 cursor ended =>
      obtain ⟨first, others, here, later, same⟩ := Result.mapM_cons_eq_ok_iff.mp found
      subst same
      cases later
      rw [id_eq] at here
      rw [Bool.not_eq_false] at ended
      have nothing := isEnd_next_iff.mp ended
      rw [here, isEnd_ok_iff] at ended
      change Lexes cursor.rest [first.lexeme]
      rw [ended]
      exact .ended nothing

theorem Lexes.exists_front {text : List Char} {lexemes : List Lexeme} (lexes : Lexes text lexemes) :
    ∃ front, lexemes = front ++ [.endOfText] ∧ .endOfText ∉ front := by
  induction lexes with
  | ended => exact ⟨[], rfl, List.not_mem_nil⟩
  | @next _ lexeme _ _ _ more _ ih =>
      obtain ⟨front, same, going⟩ := ih
      refine ⟨lexeme :: front, by rw [same, List.cons_append], ?_⟩
      rw [List.mem_cons, not_or]
      exact ⟨more.symm, going⟩

theorem Lexes.exists_scan {text : List Char} {lexemes : List Lexeme} (lexes : Lexes text lexemes)
    {lexeme : Lexeme} (member : lexeme ∈ lexemes) (more : lexeme ≠ .endOfText) :
    ∃ (rest : List Char) (length : Nat),
      scan (rest.drop (blankLength false rest)) = (.ok lexeme, length) := by
  induction lexes with
  | ended => exact absurd (List.mem_singleton.mp member) more
  | @next rest _ length _ found _ _ ih =>
      rcases List.mem_cons.mp member with here | later
      · exact ⟨rest, length, here ▸ found⟩
      · exact ih later

end Lexemes

def Reads (text : List Char) (tokens : List Token) : Prop :=
  ∃ lexemes, Lexes text (lexemes ++ [.endOfText]) ∧ DerivesAll lexemes tokens

theorem beforeEnd_eq {placed : List PlacedLexeme} {front : List Lexeme}
    (shape : placed.map (·.lexeme) = front ++ [.endOfText]) (going : .endOfText ∉ front) :
    beforeEnd placed = front := by
  have more : ∀ lexeme ∈ front, decide (lexeme ≠ .endOfText) = true := by
    intro lexeme member
    exact decide_eq_true fun ended => going (ended ▸ member)
  rw [beforeEnd, shape, List.takeWhile_append_of_pos more]
  simp

theorem read_eq_ok_iff {source : String} {tokens : List Token} :
    read source = .ok tokens ↔ Reads source.toList tokens := by
  constructor
  · intro found
    unfold read at found
    cases lexed : (Cursor.ofText source).lexemes with
    | error problem =>
        rw [lexed] at found
        cases found
    | ok placed =>
        rw [lexed] at found
        have lexes : Lexes source.toList (placed.map (·.lexeme)) := lexes_of_lexemes lexed
        obtain ⟨front, shape, going⟩ := lexes.exists_front
        rw [shape] at lexes
        exact ⟨front, lexes, beforeEnd_eq shape going ▸ forms_eq_ok_iff.mp found⟩
  · rintro ⟨front, lexes, forms⟩
    obtain ⟨placed, found, shape⟩ := @Lexes.exists_placed _ _ lexes (Cursor.ofText source) rfl
    have built := forms.formsAs (@formsAs_ended [.endOfText] (by simp)) placed shape
    simp only [read, found, bind, Except.bind]
    rwa [List.append_nil] at built

end Reading

end TokenGrammar
