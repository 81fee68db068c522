import Mathlib.Data.List.Induction
import Mathlib.Data.Nat.Digits.Defs
import TokenGrammar.Integer
/-!
The range of 64-bit integers, and whole numbers as they can be written, of any length.
-/

namespace TokenGrammar

namespace Integer

def InRange (value : Int) : Prop := -2 ^ 63 ≤ value ∧ value ≤ 2 ^ 63 - 1

instance (value : Int) : Decidable (InRange value) := by
  unfold InRange
  infer_instance

theorem inRange_toInt (value : Int64) : InRange value.toInt := by
  have lower := value.le_toInt
  have upper := value.toInt_lt
  constructor <;> omega

theorem ofInt?_of_inRange {value : Int} (fits : InRange value) :
    ∃ found, ofInt? value = some found ∧ found.toInt = value := by
  have bounds : Int64.minValue.toInt ≤ value ∧ value ≤ Int64.maxValue.toInt := fits
  exact ⟨_, if_pos bounds, toInt_of_ofInt? (if_pos bounds)⟩

theorem ofInt?_of_not_inRange {value : Int} (exceeds : ¬ InRange value) : ofInt? value = none :=
  if_neg exceeds

/-- Digits, zeros in front of the others included, behind at most one sign. -/
structure Numeral where
  sign : Option Char
  digits : List Char
  signed : ∀ character ∈ sign, character = '-' ∨ character = '+'
  more : digits ≠ []
  numeric : ∀ digit ∈ digits, digit.isDigit = true

namespace Numeral

def text (numeral : Numeral) : List Char := numeral.sign.toList ++ numeral.digits

def magnitude (digits : List Char) : Nat :=
  Nat.ofDigits 10 (digits.reverse.map fun digit => digit.toNat - '0'.toNat)

def value (numeral : Numeral) : Int :=
  if numeral.sign = some '-' then -magnitude numeral.digits else magnitude numeral.digits

theorem magnitude_eq (digits : List Char) : magnitude digits = Nat.ofDigitChars 10 digits 0 := by
  induction digits using List.reverseRecOn with
  | nil => rfl
  | append_singleton front last ih =>
      rw [magnitude] at ih
      rw [magnitude, List.reverse_append, List.reverse_singleton, List.singleton_append, List.map_cons,
        Nat.ofDigits_cons, ih, Nat.ofDigitChars_append, Nat.ofDigitChars_cons, Nat.ofDigitChars_nil,
        Nat.add_comm]

end Numeral

end Integer

end TokenGrammar
