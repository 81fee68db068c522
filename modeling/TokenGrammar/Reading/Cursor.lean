import TokenGrammar.Lexeme
import TokenGrammar.Text.Blank
import TokenGrammar.Text.Alphabetic
/-!
Taking lexemes off a text one by one. A cursor is the text that is left and the place where it starts;
every scan says how many characters it covers, and the cursor advances by that count. The main
statement is `rest_next_lt`: a step that does not end the text makes it shorter, so that the steps of a
text are finitely many.
-/

namespace TokenGrammar

namespace Reading

def isDelimiter (character : Char) : Bool :=
  Text.isBlank character || ['(', ')', '[', ']', '"', ';', '\'', ','].contains character

/-- How far blanks, commas and comments reach from the start of a text; `comment` tells whether the
text starts inside a comment. -/
def blankLength (comment : Bool) : List Char → Nat
  | [] => 0
  | character :: rest =>
      if comment then blankLength (character != '\n') rest + 1
      else if Text.isBlank character || character == ',' then blankLength false rest + 1
      else if character == ';' then blankLength true rest + 1
      else 0

def unescaped (character : Char) : Char :=
  if character = 'n' then '\n'
  else if character = 't' then '\t'
  else if character = 'r' then '\r'
  else character

def scanText : List Char → Except ReadFault (List Char) × Nat
  | [] => (.error .unclosedText, 0)
  | [character] =>
      if character = '"' then (.ok [], 1)
      else if character = '\\' then (.error .endInsideEscape, 1)
      else (.error .unclosedText, 1)
  | character :: next :: rest =>
      if character = '"' then (.ok [], 1)
      else if character = '\\' then
        let (value, length) := scanText rest
        (value.map (unescaped next :: ·), length + 2)
      else
        let (value, length) := scanText (next :: rest)
        (value.map (character :: ·), length + 1)

def characterNamed (name : List Char) : Except ReadFault Char :=
  match name with
  | [character] => .ok character
  | _ =>
      if name = "space".toList then .ok ' '
      else if name = "newline".toList then .ok '\n'
      else if name = "tab".toList then .ok '\t'
      else if name = "return".toList then .ok '\r'
      else .error (.unknownCharacter (String.ofList name))

/-- The character literal that continues after its backslash, and how many characters it covers. A
letter starts a name; anything else stands for itself. -/
def scanCharacter : List Char → Except ReadFault Char × Nat
  | [] => (.error .endAfterBackslash, 0)
  | first :: rest =>
      if Text.isAlphabetic first then
        let name := first :: rest.takeWhile (!isDelimiter ·)
        (characterNamed name, name.length)
      else (.ok first, 1)

/-- A bare word is a number if a digit stands first or after one sign, else a symbol. -/
def atomOf (word : List Char) : Except ReadFault Lexeme :=
  let (negative, digits) := Binary64.splitSign word
  if (digits.head?.map Char.isDigit).getD false then
    if digits.all Char.isDigit then
      let size := (Nat.ofDigitChars 10 digits 0 : Int)
      match Integer.ofInt? (if negative then -size else size) with
      | some value => .ok (.integer value)
      | none => .error (.integerOutOfRange (String.ofList word))
    else
      match Binary64.ofText? word with
      | some value => .ok (.float value)
      | none => .error (.malformedNumber (String.ofList word))
  else .ok (.symbol (String.ofList word))

def scan : List Char → Except ReadFault Lexeme × Nat
  | [] => (.ok .endOfText, 0)
  | first :: rest =>
      if first = '(' then (.ok (.opening .round), 1)
      else if first = ')' then (.ok (.closing .round), 1)
      else if first = '[' then (.ok (.opening .square), 1)
      else if first = ']' then (.ok (.closing .square), 1)
      else if first = '\'' then (.ok .quote, 1)
      else if first = '"' then
        let (value, length) := scanText rest
        (value.map fun characters => .text (String.ofList characters), length + 1)
      else if first = '\\' then
        let (value, length) := scanCharacter rest
        (value.map .character, length + 1)
      else
        let word := first :: rest.takeWhile (!isDelimiter ·)
        (atomOf word, word.length)

theorem scan_ne_endOfText {first : Char} {rest : List Char} :
    (scan (first :: rest)).1 ≠ .ok .endOfText := by
  unfold scan
  dsimp only
  repeat' split
  all_goals try simp
  · cases (scanText rest).1 <;> simp [Except.map]
  · cases (scanCharacter rest).1 <;> simp [Except.map]
  · unfold atomOf
    dsimp only
    repeat' split
    all_goals simp

theorem one_le_scan_length (first : Char) (rest : List Char) : 1 ≤ (scan (first :: rest)).2 := by
  unfold scan
  dsimp only
  repeat' split
  all_goals simp

end Reading

structure Cursor where
  rest : List Char
  position : Position

namespace Cursor

def ofText (text : String) : Cursor := ⟨text.toList, .start⟩

def advance (cursor : Cursor) (count : Nat) : Cursor :=
  ⟨cursor.rest.drop count, cursor.position.afterAll (cursor.rest.take count)⟩

def skipBlanks (cursor : Cursor) : Cursor := cursor.advance (Reading.blankLength false cursor.rest)

def next (cursor : Cursor) : Except ReadError PlacedLexeme × Cursor :=
  let start := cursor.skipBlanks
  let (found, length) := Reading.scan start.rest
  let after := start.advance length
  match found with
  | .ok lexeme => (.ok ⟨lexeme, start.position⟩, after)
  | .error fault => (.error ⟨fault, after.position⟩, after)

def isEnd : Except ReadError PlacedLexeme → Bool
  | .ok placed => placed.lexeme = .endOfText
  | .error _ => false

theorem rest_next_lt {cursor : Cursor} (more : isEnd cursor.next.1 = false) :
    cursor.next.2.rest.length < cursor.rest.length := by
  have skipped : cursor.skipBlanks.rest.length ≤ cursor.rest.length := by
    simp [skipBlanks, advance]
  cases left : cursor.skipBlanks.rest with
  | nil => simp [next, left, Reading.scan, isEnd] at more
  | cons first rest =>
      have covered := Reading.one_le_scan_length first rest
      rw [left] at skipped
      have behind : cursor.next.2.rest = (first :: rest).drop (Reading.scan (first :: rest)).2 := by
        unfold next
        simp only [left]
        split <;> simp [advance, left]
      rw [behind, List.length_drop]
      simp only [List.length_cons] at skipped ⊢
      omega

def steps (cursor : Cursor) : List (Except ReadError PlacedLexeme) :=
  if _more : isEnd cursor.next.1 = false then cursor.next.1 :: steps cursor.next.2
  else [cursor.next.1]
termination_by cursor.rest.length
decreasing_by exact rest_next_lt _more

def lexemes (cursor : Cursor) : Except ReadError (List PlacedLexeme) := cursor.steps.mapM id

end Cursor

end TokenGrammar
