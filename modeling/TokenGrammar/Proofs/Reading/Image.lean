import TokenGrammar.Proofs.Reading.Blanks
import TokenGrammar.Proofs.Reading.RoundTrip
/-!
What reading can give. Every leaf of what is read was scanned as a lexeme, but for the symbols `quote` that
stand for quotes; and a symbol is scanned without a delimiter and not as a number. So every symbol that is
read from some text is readable.
Tokens without floats come back from their text exactly if their symbols are readable.
-/

namespace TokenGrammar

namespace Reading

section Scanning

theorem atomOf_eq_symbol_iff {word : List Char} {name : String} :
    atomOf word = .ok (.symbol name) ↔
      startsWithDigit (Binary64.splitSign word).2 = false ∧ String.ofList word = name := by
  constructor
  · intro found
    by_cases number : startsWithDigit (Binary64.splitSign word).2 = true
    · unfold startsWithDigit at number
      unfold atomOf at found
      simp only [number, if_true] at found
      repeat' split at found
      all_goals cases found
    · have other := Bool.not_eq_true _ ▸ number
      rw [atomOf_eq_symbol other] at found
      cases found
      exact ⟨other, rfl⟩
  · rintro ⟨other, same⟩
    rw [atomOf_eq_symbol other, same]

def isBare : Lexeme → Bool
  | .symbol _ | .integer _ | .float _ => true
  | _ => false

theorem scan_eq_bare {first : Char} {rest : List Char} {lexeme : Lexeme} {length : Nat}
    (found : scan (first :: rest) = (.ok lexeme, length)) (bare : isBare lexeme = true) :
    first ∉ ['(', ')', '[', ']', '\'', '"', '\\'] ∧
      atomOf (first :: rest.takeWhile (!isDelimiter ·)) = .ok lexeme := by
  unfold scan at found
  dsimp only at found
  split at found
  next => cases found; cases bare
  split at found
  next => cases found; cases bare
  split at found
  next => cases found; cases bare
  split at found
  next => cases found; cases bare
  split at found
  next => cases found; cases bare
  split at found
  next =>
      cases taken : (scanText rest).1 <;> rw [taken] at found <;> cases found
      cases bare
  split at found
  next =>
      cases taken : (scanCharacter rest).1 <;> rw [taken] at found <;> cases found
      cases bare
  next round round' square square' quote text backslash =>
      refine ⟨by simp [round, round', square, square', quote, text, backslash], ?_⟩
      exact congrArg Prod.fst found

theorem readable_of_scan {text : List Char} {name : String} {length : Nat}
    (found : scan (text.drop (blankLength false text)) = (.ok (.symbol name), length))
    (notTrue : name ≠ "true") (notFalse : name ≠ "false") : Readable name := by
  cases left : text.drop (blankLength false text) with
  | nil =>
      rw [left] at found
      cases found
  | cons first rest =>
      rw [left] at found
      obtain ⟨blank, comma, semicolon⟩ := head_drop_blankLength left
      obtain ⟨special, atom⟩ := scan_eq_bare found rfl
      obtain ⟨other, same⟩ := atomOf_eq_symbol_iff.mp atom
      have word : name.toList = first :: rest.takeWhile (!isDelimiter ·) := by
        rw [← same, String.toList_ofList]
      simp only [List.mem_cons, List.not_mem_nil, or_false, not_or] at special
      -- What is skipped as blank and what starts another lexeme are the delimiters together.
      have plain : isDelimiter first = false := by
        refine isDelimiter_eq_false_iff.mpr ⟨blank, ?_⟩
        simp [special, comma, semicolon]
      rw [← word] at other
      refine readable_iff.mpr ⟨?_, ?_, ?_, other, notTrue, notFalse⟩
      · intro empty
        rw [empty] at word
        cases word
      · intro character member
        rw [word] at member
        rcases List.mem_cons.mp member with here | later
        · rw [here]
          exact plain
        · simpa using List.all_eq_true.mp List.all_takeWhile character later
      · rw [word]
        simp [special]

theorem exists_append_of_scan_symbol {text : List Char} {name : String} {length : Nat}
    (found : scan text = (.ok (.symbol name), length)) :
    ∃ after, text = name.toList ++ after ∧ Stops after ∧ text.drop length = after := by
  cases text with
  | nil => cases found
  | cons first rest =>
      obtain ⟨special, atom⟩ := scan_eq_bare found rfl
      obtain ⟨_, rfl⟩ := atomOf_eq_symbol_iff.mp atom
      simp only [List.mem_cons, List.not_mem_nil, or_false, not_or] at special
      have covered : (rest.takeWhile (!isDelimiter ·)).length + 1 = length := by
        simp [scan, special] at found
        exact found.2
      have whole : first :: rest = (first :: rest.takeWhile (!isDelimiter ·)) ++
          rest.dropWhile (!isDelimiter ·) := by
        rw [List.cons_append, List.takeWhile_append_dropWhile]
      refine ⟨rest.dropWhile (!isDelimiter ·), ?_, stops_dropWhile rest, ?_⟩
      · rw [String.toList_ofList]
        exact whole
      · rw [whole, ← covered]
        exact List.drop_left

end Scanning

section Leaves

theorem AtomOf.isAtomic {lexeme : Lexeme} {token : Token} (meaning : AtomOf lexeme token) :
    token.isAtomic = true := by
  cases meaning <;> rfl

mutual

theorem Derives.exists_atomOf {lexemes : List Lexeme} {token leaf : Token}
    (form : Derives lexemes token) (member : leaf ∈ token.leaves) :
    leaf = .symbol "quote" ∨ ∃ lexeme ∈ lexemes, AtomOf lexeme leaf := by
  cases form with
  | @atom lexeme token meaning =>
      rw [Token.leaves_of_isAtomic meaning.isAtomic, List.mem_singleton] at member
      exact .inr ⟨lexeme, List.mem_singleton.mpr rfl, member ▸ meaning⟩
  | group bracket forms =>
      rw [Token.leaves] at member
      refine (forms.exists_atomOf member).imp_right ?_
      rintro ⟨lexeme, inside, meaning⟩
      exact ⟨lexeme, List.mem_cons_of_mem _ (List.mem_append_left _ inside), meaning⟩
  | @quote lexemes token form =>
      have cases : leaf = .symbol "quote" ∨ leaf ∈ token.leaves := by
        simpa [Token.quote, Token.leaves, Token.leavesAll] using member
      rcases cases with same | inside
      · exact .inl same
      · refine (form.exists_atomOf inside).imp_right ?_
        rintro ⟨lexeme, inside, meaning⟩
        exact ⟨lexeme, List.mem_cons_of_mem _ inside, meaning⟩

theorem DerivesAll.exists_atomOf {lexemes : List Lexeme} {tokens : List Token} {leaf : Token}
    (forms : DerivesAll lexemes tokens) (member : leaf ∈ Token.leavesAll tokens) :
    leaf = .symbol "quote" ∨ ∃ lexeme ∈ lexemes, AtomOf lexeme leaf := by
  cases forms with
  | nil => cases member
  | cons form forms =>
      rw [Token.leavesAll, List.mem_append] at member
      rcases member with here | later
      · refine (form.exists_atomOf here).imp_right ?_
        rintro ⟨lexeme, inside, meaning⟩
        exact ⟨lexeme, List.mem_append_left _ inside, meaning⟩
      · refine (forms.exists_atomOf later).imp_right ?_
        rintro ⟨lexeme, inside, meaning⟩
        exact ⟨lexeme, List.mem_append_right _ inside, meaning⟩

end

theorem AtomOf.unique {lexeme : Lexeme} {token other : Token} (first : AtomOf lexeme token)
    (second : AtomOf lexeme other) : token = other := by
  have alone : ∀ {token}, AtomOf lexeme token → accept [] lexeme = .complete token :=
    fun meaning => atomOf_iff.mp meaning []
  have same := (alone first).symm.trans (alone second)
  exact Progress.complete.inj same

mutual

theorem Derives.mem_leaves {lexemes : List Lexeme} {lexeme : Lexeme} {token leaf : Token}
    (form : Derives lexemes token) (member : lexeme ∈ lexemes) (meaning : AtomOf lexeme leaf) :
    leaf ∈ token.leaves := by
  cases form with
  | atom own =>
      rw [List.mem_singleton.mp member] at meaning
      rw [meaning.unique own]
      exact Token.mem_leaves_self own.isAtomic
  | group bracket forms =>
      rw [Token.leaves]
      rcases List.mem_cons.mp member with opening | behind
      · subst opening
        cases meaning
      rcases List.mem_append.mp behind with inside | closing
      · exact forms.mem_leavesAll inside meaning
      · rw [List.mem_singleton.mp closing] at meaning
        cases meaning
  | @quote _ token form =>
      rcases List.mem_cons.mp member with mark | inside
      · subst mark
        cases meaning
      · have own := form.mem_leaves inside meaning
        simp [Token.quote, Token.leaves, Token.leavesAll, own]

theorem DerivesAll.mem_leavesAll {lexemes : List Lexeme} {lexeme : Lexeme} {tokens : List Token}
    {leaf : Token} (forms : DerivesAll lexemes tokens) (member : lexeme ∈ lexemes)
    (meaning : AtomOf lexeme leaf) : leaf ∈ Token.leavesAll tokens := by
  cases forms with
  | nil => cases member
  | cons form forms =>
      rw [Token.leavesAll, List.mem_append]
      rcases List.mem_append.mp member with here | later
      · exact .inl (form.mem_leaves here meaning)
      · exact .inr (forms.mem_leavesAll later meaning)

end

theorem exists_scan_of_read {source : String} {tokens : List Token} (found : read source = .ok tokens)
    {leaf : Token} (member : leaf ∈ Token.leavesAll tokens) :
    leaf = .symbol "quote" ∨ ∃ (lexeme : Lexeme) (text : List Char) (length : Nat),
      AtomOf lexeme leaf ∧ scan (text.drop (blankLength false text)) = (.ok lexeme, length) := by
  obtain ⟨lexemes, lexes, forms⟩ := read_eq_ok_iff.mp found
  refine (forms.exists_atomOf member).imp_right ?_
  rintro ⟨lexeme, inside, meaning⟩
  have more : lexeme ≠ .endOfText := by
    intro ended
    subst ended
    cases meaning
  obtain ⟨text, length, scanned⟩ := lexes.exists_scan (List.mem_append_left _ inside) more
  exact ⟨lexeme, text, length, meaning, scanned⟩

theorem readable_of_read {source : String} {tokens : List Token} (found : read source = .ok tokens)
    {name : String} (member : Token.symbol name ∈ Token.leavesAll tokens) : Readable name := by
  rcases exists_scan_of_read found member with quote | ⟨lexeme, text, length, meaning, scanned⟩
  · cases quote
    decide
  · cases meaning with
    | symbol notTrue notFalse => exact readable_of_scan scanned notTrue notFalse

end Leaves

theorem readsBack_of_mem_leavesAll {tokens : List Token} {leaf : Token}
    (member : leaf ∈ Token.leavesAll tokens)
    (noFloat : ∀ value, Token.float value ∉ Token.leavesAll tokens)
    (readable : ∀ name, Token.symbol name ∈ Token.leavesAll tokens → Readable name) :
    ReadsBack leaf := by
  cases leaf with
  | symbol name => exact (readable name member).readsBack
  | integer value => exact readsBack_integer value
  | float value => exact absurd member (noFloat value)
  | character value => exact readsBack_character value
  | text value => exact readsBack_text value
  | boolean value => exact readsBack_boolean value
  | group bracket items =>
      obtain ⟨token, _, inside⟩ := Token.mem_leavesAll.mp member
      cases Token.isAtomic_of_mem_leaves inside

/-- Tokens without a float come back from their text exactly if all their symbols are readable. -/
theorem read_renderAll_iff {tokens : List Token}
    (noFloat : ∀ value, Token.float value ∉ Token.leavesAll tokens) :
    read (Token.renderAll tokens) = .ok tokens ↔
      ∀ name, Token.symbol name ∈ Token.leavesAll tokens → Readable name := by
  constructor
  · intro found name member
    exact readable_of_read found member
  · intro readable
    exact read_renderAll fun leaf member => readsBack_of_mem_leavesAll member noFloat readable

theorem read_renderAll_nested :
    (∀ value, Token.float value ∉ Token.leavesAll
      [.quote (.vector [.text "\"\\\n", .character ' ', .integer Int64.minValue]),
        .symbol "-a"]) ∧
    read (Token.renderAll
      [.quote (.vector [.text "\"\\\n", .character ' ', .integer Int64.minValue]),
        .symbol "-a"]) =
      .ok [.quote (.vector [.text "\"\\\n", .character ' ', .integer Int64.minValue]),
        .symbol "-a"] := by
  refine ⟨by simp [Token.quote, Token.leavesAll, Token.leaves], ?_⟩
  refine (read_renderAll_iff (by simp [Token.quote, Token.leavesAll, Token.leaves])).mpr ?_
  intro name member
  have known : name = "quote" ∨ name = "-a" := by
    simpa [Token.quote, Token.leavesAll, Token.leaves] using member
  rcases known with same | same <;> rw [same] <;> decide

end Reading

end TokenGrammar
