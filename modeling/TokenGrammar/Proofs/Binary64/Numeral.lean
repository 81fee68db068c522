import Mathlib.Data.List.TakeWhile
import TokenGrammar.Binary64.Written
import TokenGrammar.Proofs.Binary64.Rounding
/-!
Numerals and what they are read as. A numeral is read as the number nearest to its decimal, and what starts
with a digit behind its sign is not read as no number.
-/

namespace TokenGrammar

namespace Binary64

section Numerals

/-- Digits, a point and more digits, and an exponent; a point is only written in front of digits. -/
structure Numeral where
  whole : List Char
  fraction : List Char
  exponent : Option Int
  nonempty : whole ≠ []
  numeric : ∀ digit ∈ whole ++ fraction, digit.isDigit = true

def exponentText : Option Int → List Char
  | none => []
  | some power => 'e' :: withSign (decide (power < 0)) (Nat.toDigits 10 power.natAbs)

namespace Numeral

def IsMixed (numeral : Numeral) : Prop := numeral.fraction ≠ [] ∨ numeral.exponent ≠ none

def text (numeral : Numeral) : List Char :=
  numeral.whole ++
    ((if numeral.fraction = [] then [] else '.' :: numeral.fraction) ++ exponentText numeral.exponent)

def value (numeral : Numeral) (negative : Bool) : Binary64 :=
  ofDecimal negative (Nat.ofDigitChars 10 (numeral.whole ++ numeral.fraction) 0)
    (numeral.exponent.getD 0 - numeral.fraction.length)

end Numeral

theorem mem_withSign {negative : Bool} {text : List Char} {character : Char}
    (member : character ∈ withSign negative text) : character = '-' ∨ character ∈ text := by
  unfold withSign at member
  split at member
  · exact List.mem_cons.mp member
  · exact .inr member

theorem mem_exponentText {exponent : Option Int} {character : Char}
    (member : character ∈ exponentText exponent) :
    character.isDigit = true ∨ character ∈ ['.', 'e', '-'] := by
  cases exponent with
  | none => cases member
  | some power =>
      rcases List.mem_cons.mp member with mark | later
      · exact .inr (by simp [mark])
      rcases mem_withSign later with sign | digit
      · exact .inr (by simp [sign])
      · exact .inl (Nat.isDigit_of_mem_toDigits (by decide) (by decide) digit)

namespace Numeral

theorem text_eq_cons (numeral : Numeral) : ∃ first rest,
    numeral.text = first :: rest ∧ first.isDigit = true := by
  obtain ⟨whole, fraction, exponent, nonempty, numeric⟩ := numeral
  cases whole with
  | nil => exact absurd rfl nonempty
  | cons first rest => exact ⟨first, _, rfl, numeric first List.mem_cons_self⟩

theorem IsMixed.all_text_eq_false {numeral : Numeral} (mixed : numeral.IsMixed) :
    numeral.text.all Char.isDigit = false := by
  obtain ⟨whole, fraction, exponent, nonempty, numeric⟩ := numeral
  refine List.all_eq_false.mpr ?_
  by_cases pointed : fraction = []
  · cases exponent with
    | none => simp [IsMixed, pointed] at mixed
    | some power => exact ⟨'e', by simp [text, exponentText], by decide⟩
  · exact ⟨'.', by simp [text, pointed], by decide⟩

theorem mem_text {numeral : Numeral} {character : Char} (member : character ∈ numeral.text) :
    character.isDigit = true ∨ character ∈ ['.', 'e', '-'] := by
  obtain ⟨whole, fraction, exponent, nonempty, numeric⟩ := numeral
  unfold text at member
  dsimp only at member
  rcases List.mem_append.mp member with digit | later
  · exact .inl (numeric character (List.mem_append_left _ digit))
  rcases List.mem_append.mp later with inside | behind
  · split at inside
    · cases inside
    · rcases List.mem_cons.mp inside with point | digit
      · exact .inr (by simp [point])
      · exact .inl (numeric character (List.mem_append_right _ digit))
  · exact mem_exponentText behind

end Numeral

theorem ne_of_isDigit {digit other : Char} (numeric : digit.isDigit = true)
    (different : other.isDigit = false) : digit ≠ other := by
  intro same
  rw [same, different] at numeric
  cases numeric

theorem splitSign_withSign (negative : Bool) {first : Char} (digit : first.isDigit = true)
    (rest : List Char) : splitSign (withSign negative (first :: rest)) = (negative, first :: rest) := by
  cases negative with
  | true => rfl
  | false =>
      have minus : first ≠ '-' := ne_of_isDigit digit (by decide)
      have plus : first ≠ '+' := ne_of_isDigit digit (by decide)
      simp [withSign, splitSign, minus, plus]

theorem signed_natAbs (value : Int) :
    (if decide (value < 0) then -(value.natAbs : Int) else value.natAbs) = value := by
  by_cases below : value < 0
  · rw [if_pos (decide_eq_true below)]
    omega
  · rw [if_neg (by simpa using below)]
    omega

theorem exponentOf?_exponentText (exponent : Option Int) :
    exponentOf? (exponentText exponent) = some (exponent.getD 0) := by
  cases exponent with
  | none => rfl
  | some power =>
      have size := @Nat.ofDigitChars_ten_toDigits power.natAbs
      have all : ∀ digit ∈ Nat.toDigits 10 power.natAbs, digit.isDigit = true :=
        fun digit member => Nat.isDigit_of_mem_toDigits (by decide) (by decide) member
      have more := @Nat.toDigits_ne_nil power.natAbs 10
      rw [exponentText]
      generalize Nat.toDigits 10 power.natAbs = digits at size all more ⊢
      cases digits with
      | nil => exact absurd rfl more
      | cons first rest =>
          have split := splitSign_withSign (decide (power < 0)) (all first List.mem_cons_self) rest
          have numeric : (first :: rest).all Char.isDigit = true := List.all_eq_true.mpr all
          have read : exponentOf? ('e' :: withSign (decide (power < 0)) (first :: rest)) =
              some (if decide (power < 0) then -(Nat.ofDigitChars 10 (first :: rest) 0 : Int)
                else Nat.ofDigitChars 10 (first :: rest) 0) := by
            simp [exponentOf?, split, numeric]
          rw [read, size, Option.getD_some, signed_natAbs]

theorem span_isDigit {digits : List Char} (numeric : ∀ digit ∈ digits, digit.isDigit = true)
    (tail : List Char) (stops : ∀ first ∈ tail.head?, first.isDigit = false) :
    (digits ++ tail).takeWhile Char.isDigit = digits ∧
      (digits ++ tail).dropWhile Char.isDigit = tail := by
  have stopped : tail.takeWhile Char.isDigit = [] ∧ tail.dropWhile Char.isDigit = tail := by
    cases tail with
    | nil => exact ⟨rfl, rfl⟩
    | cons first rest => simp [stops first rfl]
  rw [List.takeWhile_append_of_pos numeric, List.dropWhile_append_of_pos numeric, stopped.1,
    stopped.2, List.append_nil]
  exact ⟨rfl, rfl⟩

theorem head?_exponentText {exponent : Option Int} {first : Char}
    (starts : first ∈ (exponentText exponent).head?) : first = 'e' := by
  cases exponent with
  | none => cases starts
  | some power => exact (Option.some.inj starts).symm

theorem unsignedOf?_text (numeral : Numeral) (negative : Bool) :
    unsignedOf? negative numeral.text = some (numeral.value negative) := by
  obtain ⟨whole, fraction, exponent, nonempty, numeric⟩ := numeral
  obtain ⟨wholeNumeric, fractionNumeric⟩ := List.forall_mem_append.mp numeric
  have marked : ∀ first ∈ (exponentText exponent).head?, first.isDigit = false := by
    intro first starts
    rw [head?_exponentText starts]
    decide
  have power := exponentOf?_exponentText exponent
  unfold Numeral.text Numeral.value unsignedOf?
  dsimp only
  by_cases pointed : fraction = []
  · obtain ⟨taken, left⟩ := span_isDigit wholeNumeric (exponentText exponent) marked
    rw [if_pos pointed, List.nil_append, taken, left]
    cases exponent with
    | none => simp [exponentText, exponentOf?, nonempty, pointed]
    | some size =>
        rw [exponentText] at power ⊢
        simp [power, nonempty, pointed]
  · obtain ⟨taken, left⟩ :=
      span_isDigit wholeNumeric ('.' :: (fraction ++ exponentText exponent)) (by simp)
    rw [if_neg pointed, List.cons_append, taken, left]
    obtain ⟨taken, left⟩ := span_isDigit fractionNumeric (exponentText exponent) marked
    simp [taken, left, power, nonempty]

end Numerals

section Names

theorem toLower_of_isDigit {digit : Char} (numeric : digit.isDigit = true) : digit.toLower = digit := by
  have bounds : 48 ≤ digit.toNat ∧ digit.toNat ≤ 57 := by
    simpa [Char.isDigit, UInt32.le_iff_toNat_le] using numeric
  have small : ¬(digit.val ≥ 'A'.val ∧ digit.val ≤ 'Z'.val) := by
    simp [UInt32.le_iff_toNat_le]
    omega
  unfold Char.toLower
  exact dif_neg small

theorem ofText?_eq_unsignedOf? {word rest : List Char} {first : Char}
    (behind : (splitSign word).2 = first :: rest) (digit : first.isDigit = true) :
    ofText? word = unsignedOf? (splitSign word).1 (splitSign word).2 := by
  have infinite : first ≠ 'i' := ne_of_isDigit digit (by decide)
  have unknown : first ≠ 'n' := ne_of_isDigit digit (by decide)
  simp [ofText?, behind, toLower_of_isDigit digit, infinite, unknown]

theorem unsignedOf?_ne_nan (negative : Bool) (word : List Char) :
    unsignedOf? negative word ≠ some .nan := by
  intro found
  unfold unsignedOf? at found
  dsimp only at found
  split at found
  all_goals
    split at found
    · cases found
    · obtain ⟨exponent, _, value⟩ := Option.map_eq_some_iff.mp found
      exact ofDecimal_ne_nan _ _ _ value

end Names

end Binary64

end TokenGrammar
