import TokenGrammar.Proofs.Binary64.Numeral
import TokenGrammar.Reading
/-!
Scanning what is written. The text of an atom is taken as one lexeme, as long as what follows it does not
go on with a bare word; a bare word goes on up to the next delimiter.
-/

namespace TokenGrammar

namespace Reading

def Stops (text : List Char) : Prop :=
  ∀ character, text.head? = some character → isDelimiter character = true

/-- Whatever follows, the front of a text is one lexeme, with no blank before it. -/
def ScannedAs (text : List Char) (lexeme : Lexeme) : Prop :=
  ∀ after, Stops after →
    blankLength false (text ++ after) = 0 ∧ scan (text ++ after) = (.ok lexeme, text.length)

theorem stops_nil : Stops [] := by
  intro character first
  cases first

theorem stops_cons {character : Char} (delimiter : isDelimiter character = true)
    (rest : List Char) : Stops (character :: rest) := by
  intro other first
  exact Option.some.inj first ▸ delimiter

theorem takeWhile_of_stops {after : List Char} (stops : Stops after) :
    after.takeWhile (!isDelimiter ·) = [] := by
  cases after with
  | nil => rfl
  | cons character rest => rw [List.takeWhile_cons, stops character rfl]; rfl

theorem stops_dropWhile (text : List Char) : Stops (text.dropWhile (!isDelimiter ·)) := by
  intro character first
  have ended := List.head?_dropWhile_not (!isDelimiter ·) text
  rw [first] at ended
  simpa using ended

theorem takeWhile_append_of_stops {after : List Char} (stops : Stops after) (text : List Char) :
    (text ++ after).takeWhile (!isDelimiter ·) = text.takeWhile (!isDelimiter ·) := by
  induction text with
  | nil => exact takeWhile_of_stops stops
  | cons character rest ih => rw [List.cons_append, List.takeWhile_cons, List.takeWhile_cons, ih]

theorem takeWhile_of_undelimited {word : List Char}
    (undelimited : ∀ character ∈ word, isDelimiter character = false) :
    word.takeWhile (!isDelimiter ·) = word :=
  List.takeWhile_eq_self_iff.mpr fun character member => by rw [undelimited character member]; rfl

theorem blankLength_cons_eq_zero {character : Char} (seen : Text.isBlank character = false)
    (comma : character ≠ ',') (semicolon : character ≠ ';') (rest : List Char) :
    blankLength false (character :: rest) = 0 := by
  simp [blankLength, seen, comma, semicolon]

theorem isDelimiter_eq_false_iff {character : Char} : isDelimiter character = false ↔
    Text.isBlank character = false ∧
      character ∉ ['(', ')', '[', ']', '"', ';', '\'', ','] := by
  simp [isDelimiter]

theorem undelimited_of_all {word : List Char} (all : word.all (!isDelimiter ·) = true) :
    ∀ character ∈ word, isDelimiter character = false := by
  intro character member
  simpa using List.all_eq_true.mp all character member

theorem scan_word {word after : List Char} (more : word ≠ [])
    (undelimited : ∀ character ∈ word, isDelimiter character = false)
    (bare : word.head? ≠ some '\\') (stops : Stops after) :
    blankLength false (word ++ after) = 0 ∧ scan (word ++ after) = (atomOf word, word.length) := by
  cases word with
  | nil => exact absurd rfl more
  | cons first rest =>
      obtain ⟨seen, plain⟩ := isDelimiter_eq_false_iff.mp (undelimited first List.mem_cons_self)
      have taken : (rest ++ after).takeWhile (!isDelimiter ·) = rest := by
        rw [takeWhile_append_of_stops stops, takeWhile_of_undelimited fun character member =>
          undelimited character (List.mem_cons_of_mem _ member)]
      simp only [List.mem_cons, List.not_mem_nil, or_false, not_or] at plain
      have backslash : first ≠ '\\' := fun same => bare (congrArg some same)
      refine ⟨blankLength_cons_eq_zero seen (by simp [plain]) (by simp [plain]) _, ?_⟩
      rw [List.cons_append, scan]
      simp [plain, backslash, taken]

theorem scannedAs_word {word : List Char} {lexeme : Lexeme} (more : word ≠ [])
    (undelimited : ∀ character ∈ word, isDelimiter character = false)
    (bare : word.head? ≠ some '\\') (atom : atomOf word = .ok lexeme) : ScannedAs word lexeme := by
  intro after stops
  rw [← atom]
  exact scan_word more undelimited bare stops

section Symbols

/-- The names that the reader takes for symbols. -/
structure Readable (name : String) : Prop where
  nonempty : name ≠ ""
  undelimited : ∀ character ∈ name.toList, isDelimiter character = false
  notCharacter : name.toList.head? ≠ some '\\'
  notNumber : ∀ first rest, name.toList = first :: rest → first.isDigit = false
  notSigned : ∀ sign second rest, name.toList = sign :: second :: rest →
    (sign = '-' ∨ sign = '+') → second.isDigit = false
  notTrue : name ≠ "true"
  notFalse : name ≠ "false"

def startsWithDigit (word : List Char) : Bool := (word.head?.map Char.isDigit).getD false

theorem splitSign_cons {sign : Char} (signed : sign = '-' ∨ sign = '+') (rest : List Char) :
    (Binary64.splitSign (sign :: rest)).2 = rest := by
  rcases signed with same | same <;> subst same <;> rfl

theorem splitSign_of_unsigned {word : List Char}
    (unsigned : ∀ sign rest, word = sign :: rest → sign ≠ '-' ∧ sign ≠ '+') :
    Binary64.splitSign word = (false, word) := by
  unfold Binary64.splitSign
  split
  next rest => exact absurd rfl (unsigned '-' rest rfl).1
  next rest => exact absurd rfl (unsigned '+' rest rfl).2
  next => rfl

theorem startsWithDigit_splitSign_eq_false_iff {word : List Char} :
    startsWithDigit (Binary64.splitSign word).2 = false ↔
      (∀ first rest, word = first :: rest → first.isDigit = false) ∧
        ∀ sign second rest, word = sign :: second :: rest → (sign = '-' ∨ sign = '+') →
          second.isDigit = false := by
  cases word with
  | nil => simp [Binary64.splitSign, startsWithDigit]
  | cons first rest =>
      by_cases signed : first = '-' ∨ first = '+'
      · have unnumbered : first.isDigit = false := by
          rcases signed with same | same <;> subst same <;> decide
        rw [splitSign_cons signed]
        cases rest with
        | nil => simp [startsWithDigit, unnumbered]
        | cons second rest => simp [startsWithDigit, unnumbered, signed]
      · rw [splitSign_of_unsigned]
        · simp only [startsWithDigit, List.head?_cons, Option.map_some, Option.getD_some]
          constructor
          · intro unnumbered
            refine ⟨?_, ?_⟩
            · intro other behind same
              cases same
              exact unnumbered
            · intro sign second behind same wrong
              cases same
              exact absurd wrong signed
          · intro both
            exact both.1 first rest rfl
        · intro sign behind same
          cases same
          exact not_or.mp signed

theorem readable_iff {name : String} : Readable name ↔
    name ≠ "" ∧ (∀ character ∈ name.toList, isDelimiter character = false) ∧
      name.toList.head? ≠ some '\\' ∧
        startsWithDigit (Binary64.splitSign name.toList).2 = false ∧
          name ≠ "true" ∧ name ≠ "false" := by
  rw [startsWithDigit_splitSign_eq_false_iff]
  constructor
  · rintro ⟨nonempty, undelimited, notCharacter, notNumber, notSigned, notTrue, notFalse⟩
    exact ⟨nonempty, undelimited, notCharacter, ⟨notNumber, notSigned⟩, notTrue, notFalse⟩
  · rintro ⟨nonempty, undelimited, notCharacter, ⟨notNumber, notSigned⟩, notTrue, notFalse⟩
    exact ⟨nonempty, undelimited, notCharacter, notNumber, notSigned, notTrue, notFalse⟩

instance (name : String) : Decidable (Readable name) :=
  decidable_of_iff
    (name ≠ "" ∧ name.toList.all (!isDelimiter ·) = true ∧ name.toList.head? ≠ some '\\' ∧
      startsWithDigit (Binary64.splitSign name.toList).2 = false ∧ name ≠ "true" ∧ name ≠ "false")
    (by rw [readable_iff]; simp)

theorem atomOf_eq_symbol {word : List Char}
    (other : startsWithDigit (Binary64.splitSign word).2 = false) :
    atomOf word = .ok (.symbol (String.ofList word)) := by
  unfold startsWithDigit at other
  unfold atomOf
  simp [other]

theorem Readable.scannedAs {name : String} (readable : Readable name) :
    ScannedAs name.toList (.symbol name) := by
  have more : name.toList ≠ [] := by
    intro empty
    exact readable.nonempty (String.toList_eq_nil_iff.mp empty)
  refine scannedAs_word more readable.undelimited readable.notCharacter ?_
  obtain ⟨_, _, _, notNumber, _⟩ := readable_iff.mp readable
  rw [atomOf_eq_symbol notNumber, String.ofList_toList]

end Symbols

section Numbers

theorem covers_of_lt {low point : Nat} (below : point < low) (high : Nat)
    (rest : List (Nat × Nat)) : CharSet.covers ((low, high) :: rest) point = false := by
  rw [CharSet.covers, if_pos below]

theorem covers_of_gt {low high point : Nat} (ordered : low ≤ high) (above : high < point)
    (rest : List (Nat × Nat)) :
    CharSet.covers ((low, high) :: rest) point = CharSet.covers rest point := by
  rw [CharSet.covers, if_neg (by omega), decide_eq_false (by omega), Bool.false_or]

theorem isDelimiter_of_isDigit {character : Char} (digit : character.isDigit = true) :
    isDelimiter character = false := by
  have bounds : 48 ≤ character.toNat ∧ character.toNat ≤ 57 := by
    simpa [Char.isDigit, UInt32.le_iff_toNat_le] using digit
  refine isDelimiter_eq_false_iff.mpr ⟨?_, ?_⟩
  · rw [Text.isBlank, Text.blanks, CharSet.contains, covers_of_gt (by decide) (by omega),
      covers_of_gt (by decide) (by omega), covers_of_lt (by omega)]
  · intro member
    simp only [List.mem_cons, List.not_mem_nil, or_false] at member
    rcases member with same | same | same | same | same | same | same | same <;>
      subst same <;> cases digit

theorem ofInt?_toInt (value : Int64) : Integer.ofInt? value.toInt = some value := by
  rw [Integer.ofInt?, if_pos ⟨value.minValue_le_toInt, value.toInt_le⟩, Int64.ofInt_toInt]

theorem atomOf_digits {word digits : List Char} {negative : Bool}
    (signed : Binary64.splitSign word = (negative, digits)) (more : digits ≠ [])
    (numeral : ∀ digit ∈ digits, digit.isDigit = true) :
    atomOf word =
      match Integer.ofInt? (if negative then -(Nat.ofDigitChars 10 digits 0 : Int)
        else Nat.ofDigitChars 10 digits 0) with
      | some value => .ok (.integer value)
      | none => .error (.integerOutOfRange (String.ofList word)) := by
  have all : digits.all Char.isDigit = true := List.all_eq_true.mpr numeral
  have starts : (digits.head?.map Char.isDigit).getD false = true := by
    cases digits with
    | nil => exact absurd rfl more
    | cons first rest => exact numeral first List.mem_cons_self
  unfold atomOf
  rw [signed]
  exact (if_pos starts).trans (if_pos all)

theorem atomOf_eq_integer {word digits : List Char} {negative : Bool} {value : Int64}
    (signed : Binary64.splitSign word = (negative, digits)) (more : digits ≠ [])
    (numeral : ∀ digit ∈ digits, digit.isDigit = true)
    (known : Integer.ofInt? (if negative then -(Nat.ofDigitChars 10 digits 0 : Int)
      else Nat.ofDigitChars 10 digits 0) = some value) :
    atomOf word = .ok (.integer value) := by
  rw [atomOf_digits signed more numeral, known]

theorem scannedAs_signed {negative : Bool} {first : Char} {rest : List Char} {lexeme : Lexeme}
    (digit : first.isDigit = true)
    (plain : ∀ character ∈ first :: rest, character.isDigit = true ∨ character ∈ ['.', 'e', '-'])
    (atom : atomOf (Binary64.withSign negative (first :: rest)) = .ok lexeme) :
    ScannedAs (Binary64.withSign negative (first :: rest)) lexeme := by
  refine scannedAs_word ?_ ?_ ?_ atom
  · cases negative <;> simp [Binary64.withSign]
  · intro character member
    rcases Binary64.mem_withSign member with sign | inside
    · rw [sign]
      decide
    rcases plain character inside with numeric | other
    · exact isDelimiter_of_isDigit numeric
    · simp only [List.mem_cons, List.not_mem_nil, or_false] at other
      rcases other with same | same | same <;> rw [same] <;> decide
  · intro backslash
    cases negative with
    | true => cases backslash
    | false =>
        cases backslash
        cases digit

theorem scannedAs_integer (value : Int64) : ScannedAs (Integer.text value) (.integer value) := by
  have size := @Nat.ofDigitChars_ten_toDigits value.toInt.natAbs
  have all : ∀ digit ∈ Nat.toDigits 10 value.toInt.natAbs, digit.isDigit = true :=
    fun digit member => Nat.isDigit_of_mem_toDigits (by decide) (by decide) member
  have more := @Nat.toDigits_ne_nil value.toInt.natAbs 10
  have text : Integer.text value = Binary64.withSign (decide (value.toInt < 0))
      (Nat.toDigits 10 value.toInt.natAbs) := by
    simp [Integer.text, Binary64.withSign]
  rw [text]
  generalize Nat.toDigits 10 value.toInt.natAbs = digits at size all more ⊢
  cases digits with
  | nil => exact absurd rfl more
  | cons first rest =>
      have digit := all first List.mem_cons_self
      have signed := Binary64.splitSign_withSign (decide (value.toInt < 0)) digit rest
      refine scannedAs_signed digit (fun character member => .inl (all character member)) ?_
      refine atomOf_eq_integer signed more all ?_
      rw [size, Binary64.signed_natAbs]
      exact ofInt?_toInt value

end Numbers

section Texts

theorem scanText_quote (after : List Char) : scanText ('"' :: after) = (.ok [], 1) := by
  cases after <;> simp [scanText]

theorem scanText_escape (next : Char) (rest : List Char) :
    scanText ('\\' :: next :: rest) =
      ((scanText rest).1.map (unescaped next :: ·), (scanText rest).2 + 2) := by
  simp [scanText]

theorem scanText_plain {character : Char} (quote : character ≠ '"') (escape : character ≠ '\\')
    {rest : List Char} (more : rest ≠ []) :
    scanText (character :: rest) =
      ((scanText rest).1.map (character :: ·), (scanText rest).2 + 1) := by
  cases rest with
  | nil => exact absurd rfl more
  | cons next rest => simp [scanText, quote, escape]

theorem scanText_escaped (character : Char) {rest : List Char} (more : rest ≠ []) :
    scanText (Token.escaped character ++ rest) =
      ((scanText rest).1.map (character :: ·),
        (scanText rest).2 + (Token.escaped character).length) := by
  unfold Token.escaped
  split
  next same => subst same; exact scanText_escape '"' rest
  split
  next same => subst same; exact scanText_escape '\\' rest
  split
  next same => subst same; exact scanText_escape 'n' rest
  split
  next same => subst same; exact scanText_escape 't' rest
  split
  next same => subst same; exact scanText_escape 'r' rest
  next quote escape _ _ _ => exact scanText_plain quote escape more

theorem scanText_flatMap_escaped (value after : List Char) :
    scanText (value.flatMap Token.escaped ++ '"' :: after) =
      (.ok value, (value.flatMap Token.escaped).length + 1) := by
  induction value with
  | nil => exact scanText_quote after
  | cons character rest ih =>
      rw [List.flatMap_cons, List.append_assoc, scanText_escaped character (by simp), ih]
      simp only [Except.map, List.length_append, Prod.mk.injEq, true_and]
      omega

theorem scannedAs_text (value : String) : ScannedAs (Token.text value).written (.text value) := by
  intro after _
  refine ⟨rfl, ?_⟩
  have taken := scanText_flatMap_escaped value.toList after
  simp only [Token.written, List.cons_append, List.append_assoc, List.nil_append]
  rw [scan]
  simp [taken, Except.map]

end Texts

section Characters

theorem scanCharacter_letter {first : Char} (letter : Text.isAlphabetic first = true)
    (rest : List Char) {after : List Char}
    (undelimited : ∀ character ∈ rest, isDelimiter character = false) (stops : Stops after) :
    scanCharacter (first :: rest ++ after) = (characterNamed (first :: rest), rest.length + 1) := by
  rw [List.cons_append, scanCharacter, if_pos letter]
  dsimp only
  rw [takeWhile_append_of_stops stops, takeWhile_of_undelimited undelimited]
  rfl

theorem scannedAs_backslash {text : List Char} {value : Char}
    (taken : ∀ after, Stops after → scanCharacter (text ++ after) = (.ok value, text.length)) :
    ScannedAs ('\\' :: text) (.character value) := by
  intro after stops
  refine ⟨blankLength_cons_eq_zero (by decide) (by decide) (by decide) _, ?_⟩
  rw [List.cons_append, scan]
  simp [taken after stops, Except.map]

theorem scannedAs_character (value : Char) :
    ScannedAs (Token.characterText value) (.character value) := by
  unfold Token.characterText
  split
  next same =>
      subst same
      exact scannedAs_backslash fun after stops =>
        scanCharacter_letter (by decide) "pace".toList (undelimited_of_all (by decide)) stops
  split
  next same =>
      subst same
      exact scannedAs_backslash fun after stops =>
        scanCharacter_letter (by decide) "ewline".toList (undelimited_of_all (by decide)) stops
  split
  next same =>
      subst same
      exact scannedAs_backslash fun after stops =>
        scanCharacter_letter (by decide) "ab".toList (undelimited_of_all (by decide)) stops
  next =>
      refine scannedAs_backslash fun after stops => ?_
      by_cases letter : Text.isAlphabetic value = true
      · exact scanCharacter_letter letter [] (by simp) stops
      · rw [List.cons_append, scanCharacter, if_neg letter]
        rfl

end Characters

end Reading

end TokenGrammar
