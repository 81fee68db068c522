import TokenGrammar.Binary64.Written
import TokenGrammar.Proofs.Binary64.Numeral
/-!
The text of a finite number. Its digits are those of a decimal that rounds to the number, and every layout
of them is a numeral of the same value, so that the text is read as the number it was written for.
-/

namespace TokenGrammar

namespace Binary64

section Shortest

variable {units : Nat}

theorem decimalUnits_of_readsBack {decimal : Decimal} (reads : decimal.readsBack units = true) :
    decimalUnits decimal.digits decimal.exponent = units := by
  unfold Decimal.readsBack at reads
  split at reads
  next found _ same => exact (eq_decimalUnits_of_ofDecimal same).trans (beq_iff_eq.mp reads)
  next => cases reads

theorem readsBack_of_nearerOf? {below above decimal : Decimal} {nearerBelow : Bool}
    (found : nearerOf? units below above nearerBelow = some decimal) :
    decimal.readsBack units = true := by
  unfold nearerOf? at found
  split at found
  next first second =>
      cases found
      split
      · exact first
      · exact second
  next first _ => exact Option.some.inj found ▸ first
  next _ second => exact Option.some.inj found ▸ second
  next => cases found

theorem decimalUnits_mul_five_pow (representable : Representable units) {places : Nat}
    (whole : Nat.pow 5 places * unitsPerOne = Nat.pow 10 places) :
    decimalUnits (units * Nat.pow 5 places) (-places) = units := by
  have fraction : (-(-(places : Int))).toNat = places := by omega
  rw [decimalUnits_of_nonpos (by omega), Nat.mul_assoc, whole, fraction]
  calc roundUnits (units * Nat.pow 10 places) (Nat.pow 10 places)
      = roundUnits units 1 :=
        roundUnits_congr (Nat.pow_pos (by decide)) Nat.one_pos (Nat.mul_one _)
    _ = units := roundUnits_one representable

theorem decimalUnits_shortest (representable : Representable units) :
    decimalUnits (shortest units).digits (shortest units).exponent = units := by
  unfold shortest
  cases found : (List.range' 1 17).findSome? (decimalOf? units) with
  | none =>
      obtain ⟨places, size, whole⟩ : ∃ places : Nat,
          places = 1074 ∧ Nat.pow 5 places * unitsPerOne = Nat.pow 10 places :=
        ⟨1074, rfl, by decide +kernel⟩
      have exponent : (-1074 : Int) = -places := by omega
      rw [Option.getD_none, exactDecimal, exponent, ← size]
      exact decimalUnits_mul_five_pow representable whole
  | some decimal =>
      obtain ⟨_, _, chosen⟩ := List.exists_of_findSome?_eq_some found
      exact decimalUnits_of_readsBack (readsBack_of_nearerOf? chosen)

end Shortest

section Layouts

variable {digits : List Char}

theorem exists_append_zeros (text : List Char) : ∃ count,
    text = (text.reverse.dropWhile (· = '0')).reverse ++ List.replicate count '0' := by
  refine ⟨(text.reverse.takeWhile (· = '0')).length, ?_⟩
  have zeros : (text.reverse.takeWhile (· = '0')).reverse =
      List.replicate (text.reverse.takeWhile (· = '0')).length '0' := by
    refine List.eq_replicate_iff.mpr ⟨List.length_reverse, ?_⟩
    intro digit member
    simpa using List.mem_takeWhile_imp (List.mem_reverse.mp member)
  rw [← zeros, ← List.reverse_append, List.takeWhile_append_dropWhile, List.reverse_reverse]

theorem ofDigitChars_append_zeros (digits : List Char) (count : Nat) :
    Nat.ofDigitChars 10 (digits ++ List.replicate count '0') 0 =
      Nat.ofDigitChars 10 digits 0 * 10 ^ count := by
  rw [Nat.ofDigitChars_append, Nat.ofDigitChars_replicate_zero, Nat.mul_comm]

theorem ofDigitChars_zeros_append (count : Nat) (digits : List Char) :
    Nat.ofDigitChars 10 (List.replicate count '0' ++ digits) 0 = Nat.ofDigitChars 10 digits 0 := by
  rw [Nat.ofDigitChars_append, Nat.ofDigitChars_replicate_zero, Nat.mul_zero]

theorem isDigit_of_mem_zeros (count : Nat) :
    ∀ digit ∈ List.replicate count '0', digit.isDigit = true := by
  intro digit member
  rw [List.eq_of_mem_replicate member]
  decide

theorem ofDecimal_significant (negative : Bool) (decimal : Decimal) :
    ofDecimal negative (Nat.ofDigitChars 10 decimal.significant.1 0)
        (decimal.significant.2 - decimal.significant.1.length) =
      ofDecimal negative decimal.digits decimal.exponent := by
  obtain ⟨count, split⟩ := exists_append_zeros (Nat.toDigits 10 decimal.digits)
  have size := congrArg List.length split
  have value := congrArg (Nat.ofDigitChars 10 · 0) split
  simp only [ofDigitChars_append_zeros, Nat.ofDigitChars_ten_toDigits] at value
  rw [List.length_append, List.length_replicate] at size
  unfold Decimal.significant
  dsimp only
  generalize (List.dropWhile (· = '0') (Nat.toDigits 10 decimal.digits).reverse).reverse = digits
    at size value ⊢
  have place : (Nat.toDigits 10 decimal.digits).length + decimal.exponent - digits.length =
      decimal.exponent + count := by omega
  rw [place, ← ofDecimal_mul_pow, ← value]

theorem isDigit_of_mem_significant (decimal : Decimal) :
    ∀ digit ∈ decimal.significant.1, digit.isDigit = true := by
  intro digit member
  have inside : digit ∈ Nat.toDigits 10 decimal.digits :=
    List.mem_reverse.mp ((List.dropWhile_sublist _).mem (List.mem_reverse.mp member))
  exact Nat.isDigit_of_mem_toDigits (by decide) (by decide) inside

def LaysOut (digits : List Char) (place : Int) (text : List Char) : Prop :=
  ∃ numeral : Numeral, text = numeral.text ∧ numeral.IsMixed ∧
    ∀ negative, numeral.value negative =
      ofDecimal negative (Nat.ofDigitChars 10 digits 0) (place - digits.length)

variable (numeric : ∀ digit ∈ digits, digit.isDigit = true) (nonempty : digits ≠ []) (place : Int)

include numeric nonempty

theorem laysOut_fraction (small : place ≤ 0) :
    LaysOut digits place ('0' :: '.' :: (List.replicate (-place).toNat '0' ++ digits)) := by
  refine ⟨⟨['0'], List.replicate (-place).toNat '0' ++ digits, none, by simp, ?_⟩, ?_, ?_, ?_⟩
  · exact List.forall_mem_append.mpr
      ⟨isDigit_of_mem_zeros 1, List.forall_mem_append.mpr ⟨isDigit_of_mem_zeros _, numeric⟩⟩
  · simp [Numeral.text, exponentText, nonempty]
  · exact .inl (by simp [nonempty])
  · intro negative
    have value : Nat.ofDigitChars 10 (['0'] ++ (List.replicate (-place).toNat '0' ++ digits)) 0 =
        Nat.ofDigitChars 10 digits 0 := ofDigitChars_zeros_append ((-place).toNat + 1) digits
    have scale : (0 : Int) - (List.replicate (-place).toNat '0' ++ digits).length =
        place - digits.length := by
      rw [List.length_append, List.length_replicate]
      omega
    simp only [Numeral.value, value, Option.getD_none, scale]

theorem laysOut_inside (some : 0 < place) (inside : place.toNat < digits.length) :
    LaysOut digits place (digits.take place.toNat ++ '.' :: digits.drop place.toNat) := by
  refine ⟨⟨digits.take place.toNat, digits.drop place.toNat, none, ?_, ?_⟩, ?_, ?_, ?_⟩
  · simp [nonempty]
    omega
  · rw [List.take_append_drop]
    exact numeric
  · simp [Numeral.text, exponentText, Nat.not_le.mpr inside]
  · exact .inl (by simp [Nat.not_le.mpr inside])
  · intro negative
    have scale : (0 : Int) - (digits.drop place.toNat).length = place - digits.length := by
      rw [List.length_drop]
      omega
    simp only [Numeral.value, List.take_append_drop, Option.getD_none, scale]

theorem laysOut_whole (beyond : digits.length ≤ place.toNat) :
    LaysOut digits place
      (digits ++ List.replicate (place.toNat - digits.length) '0' ++ ['.', '0']) := by
  have length : 0 < digits.length := List.length_pos_iff.mpr nonempty
  refine ⟨⟨digits ++ List.replicate (place.toNat - digits.length) '0', ['0'], none,
    by simp [nonempty], ?_⟩, ?_, .inl (by simp), ?_⟩
  · exact List.forall_mem_append.mpr ⟨List.forall_mem_append.mpr
      ⟨numeric, isDigit_of_mem_zeros _⟩, isDigit_of_mem_zeros 1⟩
  · simp [Numeral.text, exponentText]
  · intro negative
    have value : digits ++ List.replicate (place.toNat - digits.length) '0' ++ ['0'] =
        digits ++ List.replicate (place.toNat - digits.length + 1) '0' := by
      rw [List.append_assoc, List.replicate_succ']
    have scale : (0 : Int) - 1 + ((place.toNat - digits.length + 1 : Nat) : Int) =
        place - digits.length := by omega
    simp only [Numeral.value, value, ofDigitChars_append_zeros, ofDecimal_mul_pow]
    exact congrArg _ scale

theorem laysOut_positional : LaysOut digits place (positional digits place ['.', '0']) := by
  unfold positional
  split
  next small => exact laysOut_fraction numeric nonempty place small
  split
  next some inside => exact laysOut_inside numeric nonempty place (Int.not_le.mp some) inside
  next beyond => exact laysOut_whole numeric nonempty place (Nat.not_lt.mp beyond)

theorem laysOut_scientific : LaysOut digits place (scientific digits place) := by
  cases digits with
  | nil => exact absurd rfl nonempty
  | cons first rest =>
      refine ⟨⟨[first], rest, some (place - 1), by simp, numeric⟩, ?_, .inr (by simp), ?_⟩
      · cases rest <;> simp [scientific, Numeral.text, exponentText, withSign]
      · intro negative
        have scale : place - 1 - rest.length = place - (first :: rest).length := by
          rw [List.length_cons]
          omega
        exact congrArg _ scale

end Layouts

theorem exists_numeral_text (negative : Bool) {units : Nat} (representable : Representable units) :
    ∃ numeral : Numeral, text (.finite negative units representable) = withSign negative numeral.text ∧
      numeral.IsMixed ∧ numeral.value negative = .finite negative units representable := by
  by_cases zero : units = 0
  · subst zero
    refine ⟨⟨['0'], ['0'], none, by simp, isDigit_of_mem_zeros 2⟩, ?_, .inl (by simp), ?_⟩
    · rw [text, if_pos rfl]
      rfl
    · rw [Numeral.value, ofDecimal, if_pos (by decide)]
  · have numeric := isDigit_of_mem_significant (shortest units)
    have value := ofDecimal_significant negative (shortest units)
    rw [ofDecimal_eq_finite negative representable (decimalUnits_shortest representable)] at value
    rw [text, if_neg zero]
    generalize (shortest units).significant = significant at numeric value ⊢
    obtain ⟨digits, place⟩ := significant
    -- Without digits the decimal would be zero, and the magnitude with it.
    have nonempty : digits ≠ [] := by
      intro none
      have nothing : ofDecimal negative 0 (place - digits.length) =
          .finite negative 0 representable_zero := if_pos rfl
      rw [none] at value nothing
      cases nothing.symm.trans value
      exact zero rfl
    have laid : LaysOut digits place
        (if -4 < place && place ≤ 16 then positional digits place ['.', '0']
        else scientific digits place) := by
      split
      · exact laysOut_positional numeric nonempty place
      · exact laysOut_scientific numeric nonempty place
    obtain ⟨numeral, same, mixed, reads⟩ := laid
    exact ⟨numeral, congrArg (withSign negative) same, mixed, (reads negative).trans value⟩

end Binary64

end TokenGrammar
