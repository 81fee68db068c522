import TokenGrammar.Proofs.Binary64.Layout
import TokenGrammar.Proofs.Reading.Image
/-!
Writing what was read and reading it again. A finite number is written as a numeral that is read as the same
number. An infinity, which is what a numeral beyond the range of the format stands for, is written as a
word, and a word is read as a symbol. So what was read comes back exactly if no infinity is in it.
-/

namespace TokenGrammar

namespace Reading

section Numbers

theorem atomOf_eq_float_iff {word : List Char} {value : Binary64} : atomOf word = .ok (.float value) ↔
    startsWithDigit (Binary64.splitSign word).2 = true ∧
      (Binary64.splitSign word).2.all Char.isDigit = false ∧ Binary64.ofText? word = some value := by
  unfold atomOf startsWithDigit
  constructor
  · intro found
    dsimp only at found
    split at found
    next number =>
        split at found
        next => split at found <;> cases found
        next mixed =>
            split at found
            next known =>
                cases found
                exact ⟨number, Bool.not_eq_true _ ▸ mixed, known⟩
            next => cases found
    next => cases found
  · rintro ⟨number, mixed, known⟩
    simp [number, mixed, known]

theorem scannedAs_numeral {numeral : Binary64.Numeral} (mixed : numeral.IsMixed) (negative : Bool) :
    ScannedAs (Binary64.withSign negative numeral.text) (.float (numeral.value negative)) := by
  obtain ⟨first, rest, text, digit⟩ := numeral.text_eq_cons
  have split := Binary64.splitSign_withSign negative digit rest
  have plain : ∀ character ∈ first :: rest, character.isDigit = true ∨ character ∈ ['.', 'e', '-'] := by
    rw [← text]
    exact fun character => Binary64.Numeral.mem_text
  have different := mixed.all_text_eq_false
  have value := Binary64.unsignedOf?_text numeral negative
  rw [text] at different value ⊢
  refine scannedAs_signed digit plain (atomOf_eq_float_iff.mpr ⟨?_, ?_, ?_⟩)
  · rw [split]
    exact digit
  · rw [split]
    exact different
  · rw [Binary64.ofText?_eq_unsignedOf? (congrArg Prod.snd split) digit, split]
    exact value

theorem readsBack_finite (negative : Bool) {units : Nat} (representable : Binary64.Representable units) :
    ReadsBack (.float (.finite negative units representable)) := by
  obtain ⟨numeral, text, mixed, value⟩ := Binary64.exists_numeral_text negative representable
  refine ⟨?_, by simp [lexemeOf], fun _ => rfl⟩
  rw [Token.written, lexemeOf, text, ← value]
  exact scannedAs_numeral mixed negative

theorem ne_nan_of_scan {text : List Char} {value : Binary64} {length : Nat}
    (found : scan text = (.ok (.float value), length)) : value ≠ .nan := by
  cases text with
  | nil => cases found
  | cons first rest =>
      obtain ⟨number, _, known⟩ := atomOf_eq_float_iff.mp (scan_eq_bare found rfl).2
      generalize first :: rest.takeWhile (!isDelimiter ·) = word at number known
      cases behind : (Binary64.splitSign word).2 with
      | nil =>
          rw [behind] at number
          cases number
      | cons digit digits =>
          rw [behind] at number
          rw [Binary64.ofText?_eq_unsignedOf? behind number] at known
          intro unknown
          exact Binary64.unsignedOf?_ne_nan _ _ (unknown ▸ known)

end Numbers

section Reprinted

def isInfinite : Token → Bool
  | .float (.infinite _) => true
  | _ => false

mutual

/-- What the text of a token is read as, if the token was read itself. -/
def reprinted : Token → Token
  | .float (.infinite negative) => .symbol (String.ofList (Binary64.infinite negative).text)
  | .group bracket items => .group bracket (reprintedAll items)
  | token => token

def reprintedAll : List Token → List Token
  | [] => []
  | token :: rest => reprinted token :: reprintedAll rest

end

theorem reprintedAll_eq_map (tokens : List Token) : reprintedAll tokens = tokens.map reprinted := by
  induction tokens with
  | nil => rfl
  | cons token rest ih => rw [reprintedAll, ih, List.map_cons]

theorem writtenAll_map {change : Token → Token} {tokens : List Token}
    (same : ∀ token ∈ tokens, (change token).written = token.written) :
    Token.writtenAll (tokens.map change) = Token.writtenAll tokens := by
  induction tokens with
  | nil => rfl
  | cons token rest ih =>
      obtain ⟨own, others⟩ := List.forall_mem_cons.mp same
      have further := ih others
      cases rest with
      | nil => simpa [Token.writtenAll] using own
      | cons next rest =>
          rw [List.map_cons] at further
          rw [List.map_cons, List.map_cons, Token.writtenAll, own, further, Token.writtenAll]

theorem written_reprinted (token : Token) : (reprinted token).written = token.written := by
  induction token using Token.induction with
  | atom token atomic =>
      cases token with
      | group bracket items => cases atomic
      | float value =>
          cases value with
          | infinite negative => rw [reprinted, Token.written, Token.written, String.toList_ofList]
          | _ => rfl
      | _ => rfl
  | group bracket items ih =>
      rw [reprinted, reprintedAll_eq_map, Token.written, Token.written, writtenAll_map ih]

theorem leavesAll_map {change : Token → Token} {tokens : List Token}
    (same : ∀ token ∈ tokens, (change token).leaves = token.leaves.map change) :
    Token.leavesAll (tokens.map change) = (Token.leavesAll tokens).map change := by
  induction tokens with
  | nil => rfl
  | cons token rest ih =>
      obtain ⟨own, others⟩ := List.forall_mem_cons.mp same
      rw [List.map_cons, Token.leavesAll, Token.leavesAll, List.map_append, own, ih others]

theorem leaves_reprinted (token : Token) : (reprinted token).leaves = token.leaves.map reprinted := by
  induction token using Token.induction with
  | atom token atomic =>
      cases token with
      | group bracket items => cases atomic
      | float value => cases value <;> rfl
      | _ => rfl
  | group bracket items ih =>
      rw [reprinted, reprintedAll_eq_map, Token.leaves, Token.leaves, leavesAll_map ih]

theorem reprinted_ne_infinite (token : Token) (negative : Bool) :
    reprinted token ≠ .float (.infinite negative) := by
  cases token with
  | float value => cases value <;> simp [reprinted]
  | _ => simp [reprinted]

theorem reprinted_eq_self {token : Token}
    (finite : ∀ negative, Token.float (.infinite negative) ∉ token.leaves) :
    reprinted token = token := by
  induction token using Token.induction with
  | atom token atomic =>
      cases token with
      | group bracket items => cases atomic
      | float value =>
          cases value with
          | infinite negative => exact absurd (List.mem_singleton.mpr rfl) (finite negative)
          | _ => rfl
      | _ => rfl
  | group bracket items ih =>
      have same : items.map reprinted = items := by
        refine (List.map_congr_left fun item member => ih item member ?_).trans (List.map_id items)
        intro negative inside
        refine finite negative ?_
        rw [Token.leaves]
        exact Token.mem_leavesAll.mpr ⟨item, member, inside⟩
      rw [reprinted, reprintedAll_eq_map, same]

theorem map_reprinted_eq_self_iff {tokens : List Token} : tokens.map reprinted = tokens ↔
    ∀ negative, Token.float (.infinite negative) ∉ Token.leavesAll tokens := by
  constructor
  · intro same negative member
    rw [← same, leavesAll_map fun token _ => leaves_reprinted token] at member
    obtain ⟨original, _, here⟩ := List.mem_map.mp member
    exact reprinted_ne_infinite original negative here
  · intro finite
    refine (List.map_congr_left fun token member => reprinted_eq_self ?_).trans (List.map_id tokens)
    intro negative inside
    exact finite negative (Token.mem_leavesAll.mpr ⟨token, member, inside⟩)

end Reprinted

section Reading

variable {source : String} {tokens : List Token}

theorem readsBack_reprinted (found : read source = .ok tokens) {leaf : Token}
    (member : leaf ∈ Token.leavesAll tokens) : ReadsBack (reprinted leaf) := by
  cases leaf with
  | symbol name => exact (readable_of_read found member).readsBack
  | integer value => exact readsBack_integer value
  | character value => exact readsBack_character value
  | text value => exact readsBack_text value
  | boolean value => exact readsBack_boolean value
  | group bracket items =>
      obtain ⟨token, _, inside⟩ := Token.mem_leavesAll.mp member
      cases Token.isAtomic_of_mem_leaves inside
  | float value =>
      cases value with
      | finite negative units representable => exact readsBack_finite negative representable
      | infinite negative =>
          have readable : Readable (String.ofList (Binary64.infinite negative).text) := by
            cases negative <;> decide
          exact readable.readsBack
      | nan =>
          rcases exists_scan_of_read found member with quote | ⟨lexeme, text, length, meaning, scanned⟩
          · cases quote
          · cases meaning
            exact absurd rfl (ne_nan_of_scan scanned)

theorem read_renderAll_reprinted (found : read source = .ok tokens) :
    read (Token.renderAll tokens) = .ok (tokens.map reprinted) := by
  -- The texts are the same, and every leaf of the second list of tokens comes back from its text.
  have text : Token.renderAll tokens = Token.renderAll (tokens.map reprinted) := by
    rw [Token.renderAll, Token.renderAll, writtenAll_map fun token _ => written_reprinted token]
  rw [text]
  refine read_renderAll fun leaf member => ?_
  rw [leavesAll_map fun token _ => leaves_reprinted token] at member
  obtain ⟨original, inside, same⟩ := List.mem_map.mp member
  exact same ▸ readsBack_reprinted found inside

/-- What was read comes back from its own text exactly if there is no infinity in it. -/
theorem read_renderAll_of_read_iff (found : read source = .ok tokens) :
    read (Token.renderAll tokens) = .ok tokens ↔
      ∀ negative, Token.float (.infinite negative) ∉ Token.leavesAll tokens := by
  rw [read_renderAll_reprinted found, Except.ok.injEq]
  exact map_reprinted_eq_self_iff

theorem read_renderAll_of_read_iff_fraction : ∃ tokens,
    read "(f -2.50e-1 [+1e22])" = .ok tokens ∧ read (Token.renderAll tokens) = .ok tokens := by
  obtain ⟨tokens, found, finite⟩ : ∃ tokens, read "(f -2.50e-1 [+1e22])" = .ok tokens ∧
      (Token.leavesAll tokens).all (!isInfinite ·) = true :=
    Result.exists_of_any (by decide +kernel)
  refine ⟨tokens, found, (read_renderAll_of_read_iff found).mpr ?_⟩
  intro negative member
  have other := List.all_eq_true.mp finite _ member
  cases other

/-- A numeral beyond the range of the format. -/
theorem not_read_renderAll_of_read : ¬ ∀ source tokens, read source = .ok tokens →
    read (Token.renderAll tokens) = .ok tokens := by
  intro claim
  have found : read "1e999" = .ok [.float (.infinite false)] := by with_unfolding_all rfl
  have again := claim _ _ found
  rw [read_renderAll_reprinted found] at again
  cases again

end Reading

end Reading

end TokenGrammar
