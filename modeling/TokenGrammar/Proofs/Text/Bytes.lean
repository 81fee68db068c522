import Mathlib.Data.String.Basic
import TokenGrammar.Text.Bytes
/-!
Texts as bytes. The sizes that are counted are those of the UTF-8 form, and the bytes of texts stand in the
same order as their characters.
-/

namespace TokenGrammar

namespace Text

section Sizes

theorem byteSize_toList (text : String) : byteSize text.toList = text.utf8ByteSize := by
  obtain ⟨characters, rfl⟩ := text.exists_eq_ofList
  rw [String.toList_ofList, String.utf8ByteSize_ofList]
  induction characters with
  | nil => rfl
  | cons character rest ih =>
      rw [String.utf8Len_cons, ← ih, Nat.add_comm]
      rfl

theorem within_append (before after : List Char) :
    within (byteSize before) (before ++ after) = before := by
  induction before with
  | nil =>
      cases after with
      | nil => rfl
      | cons character rest =>
          have some : ¬ character.utf8Size ≤ 0 := Nat.not_le_of_lt character.utf8Size_pos
          exact if_neg some
  | cons character rest ih =>
      have size : byteSize (character :: rest) = character.utf8Size + byteSize rest := rfl
      rw [size, List.cons_append, within, if_pos (Nat.le_add_right _ _), Nat.add_sub_cancel_left, ih]

theorem within_utf8ByteSize (before after : String) :
    within before.utf8ByteSize (before ++ after).toList = before.toList := by
  rw [← byteSize_toList, String.toList_append, within_append]

end Sizes

section Order

def bytes (text : String) : List UInt8 := text.toByteArray.data.toList

theorem bytes_eq_flatMap (text : String) : bytes text = text.toList.flatMap String.utf8EncodeChar := by
  obtain ⟨characters, rfl⟩ := text.exists_eq_ofList
  rw [bytes, String.toByteArray_ofList, String.toList_ofList, List.utf8Encode,
    List.toList_data_toByteArray]

variable {first second : Nat}

theorem ofNat_lt_ofNat_iff (small : first < 256) (other : second < 256) :
    UInt8.ofNat first < UInt8.ofNat second ↔ first < second := by
  rw [UInt8.lt_iff_toNat_lt, UInt8.toNat_ofNat_of_lt' small, UInt8.toNat_ofNat_of_lt' other]

theorem ofNat_eq_ofNat_iff (small : first < 256) (other : second < 256) :
    UInt8.ofNat first = UInt8.ofNat second ↔ first = second := by
  rw [← UInt8.toNat_inj, UInt8.toNat_ofNat_of_lt' small, UInt8.toNat_ofNat_of_lt' other]

theorem lt_iff_div_mod : first < second ↔
    first / 64 < second / 64 ∨ first / 64 = second / 64 ∧ first % 64 < second % 64 := by
  omega

theorem digits_lt (less : first < second) :
    first / 262144 < second / 262144 ∨ first / 262144 = second / 262144 ∧
      (first / 4096 % 64 < second / 4096 % 64 ∨ first / 4096 % 64 = second / 4096 % 64 ∧
        (first / 64 % 64 < second / 64 % 64 ∨ first / 64 % 64 = second / 64 % 64 ∧
          first % 64 < second % 64)) := by
  have middle : ∀ number, number / 64 / 64 = number / 4096 := fun _ => Nat.div_div_eq_div_mul _ _ _
  have front : ∀ number, number / 4096 / 64 = number / 262144 := fun _ => Nat.div_div_eq_div_mul _ _ _
  rcases lt_iff_div_mod.mp less with upper | ⟨same, last⟩
  · rcases lt_iff_div_mod.mp upper with upper | ⟨same, last⟩
    · rw [middle, middle] at upper
      rcases lt_iff_div_mod.mp upper with upper | ⟨same, last⟩
      · rw [front, front] at upper
        exact .inl upper
      · rw [front, front] at same
        exact .inr ⟨same, .inl last⟩
    · rw [middle, middle] at same
      rw [← front, ← front, same]
      exact .inr ⟨rfl, .inr ⟨rfl, .inl last⟩⟩
  · rw [← front, ← front, ← middle, ← middle, same]
    exact .inr ⟨rfl, .inr ⟨rfl, .inr ⟨rfl, last⟩⟩⟩

theorem utf8EncodeChar_append_lt {character other : Char} (less : character < other)
    (rest behind : List UInt8) :
    String.utf8EncodeChar character ++ rest < String.utf8EncodeChar other ++ behind := by
  have smaller : character.val.toNat < other.val.toNat := less
  have bounded : other.val.toNat < 1114112 := by
    rcases other.valid with low | high <;> omega
  unfold String.utf8EncodeChar
  dsimp only
  generalize character.val.toNat = low at smaller ⊢
  generalize other.val.toNat = high at smaller bounded ⊢
  -- Forms of different sizes differ in their first bytes, and a byte behind it is a digit to base 64.
  have digits := digits_lt smaller
  have leading : low / 262144 % 8 = low / 262144 := by omega
  have leading' : high / 262144 % 8 = high / 262144 := by omega
  split_ifs
  all_goals
    simp (disch := omega) only [List.cons_append, List.nil_append, List.cons_lt_cons_iff,
      ofNat_lt_ofNat_iff, ofNat_eq_ofNat_iff]
    omega

theorem flatMap_utf8EncodeChar_lt {characters others : List Char} (less : characters < others) :
    characters.flatMap String.utf8EncodeChar < others.flatMap String.utf8EncodeChar := by
  induction less with
  | @nil other rest =>
      cases encoded : String.utf8EncodeChar other with
      | nil => exact absurd encoded String.utf8EncodeChar_ne_nil
      | cons byte bytes =>
          rw [List.flatMap_nil, List.flatMap_cons, encoded]
          exact .nil
  | cons _ ih => exact List.append_left_lt ih
  | rel less => exact utf8EncodeChar_append_lt less _ _

theorem bytes_lt_of_lt {text other : String} (less : text < other) : bytes text < bytes other := by
  rw [bytes_eq_flatMap, bytes_eq_flatMap]
  exact flatMap_utf8EncodeChar_lt (String.lt_iff_toList_lt.mp less)

end Order

end Text

end TokenGrammar
