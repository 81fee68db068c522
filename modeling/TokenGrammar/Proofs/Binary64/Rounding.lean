import Mathlib.Algebra.Order.Ring.Nat
import Mathlib.Tactic.Ring
import TokenGrammar.Binary64.Decimal
/-!
Rounding depends on the value of a quotient only, and leaves magnitudes of the format as they are. The
limits beyond which decimals are not looked at are far enough out: what is left out there would round to an
infinity or to zero. So a decimal is read by its value alone, however it is written.
-/

namespace TokenGrammar

namespace Binary64

section Quotients

theorem nearest_mul_mul {scale : Nat} (positive : 0 < scale) (numerator denominator : Nat) :
    nearest (numerator * scale) (denominator * scale) = nearest numerator denominator := by
  unfold nearest
  simp only [Nat.mul_div_mul_right _ _ positive, Nat.mul_mod_mul_right, ← Nat.mul_assoc,
    Nat.mul_lt_mul_right positive]

theorem roundUnits_mul_mul {scale : Nat} (positive : 0 < scale) (numerator denominator : Nat) :
    roundUnits (numerator * scale) (denominator * scale) = roundUnits numerator denominator := by
  unfold roundUnits
  dsimp only
  rw [Nat.mul_div_mul_right _ _ positive, Nat.mul_right_comm, nearest_mul_mul positive]

theorem roundUnits_congr {numerator denominator other divisor : Nat} (positive : 0 < denominator)
    (positiveDivisor : 0 < divisor) (same : numerator * divisor = other * denominator) :
    roundUnits numerator denominator = roundUnits other divisor := by
  calc roundUnits numerator denominator
      = roundUnits (numerator * divisor) (denominator * divisor) :=
        (roundUnits_mul_mul positiveDivisor _ _).symm
    _ = roundUnits (other * denominator) (divisor * denominator) := by
        rw [same, Nat.mul_comm denominator divisor]
    _ = roundUnits other divisor := roundUnits_mul_mul positive _ _

theorem roundUnits_one {units : Nat} (representable : Representable units) :
    roundUnits units 1 = units := by
  obtain ⟨count, same⟩ := representable.2
  have positive : 0 < spacing units := Nat.two_pow_pos _
  have exact : nearest units (spacing units) = count := by
    have quotient : units / spacing units = count := Nat.div_eq_of_eq_mul_right positive same
    have remainder : units % spacing units = 0 := Nat.mod_eq_zero_of_dvd representable.2
    simp [nearest, quotient, remainder, positive]
  rw [roundUnits, Nat.div_one, Nat.one_mul, exact, Nat.mul_comm]
  exact same.symm

theorem roundUnits_zero (denominator : Nat) : roundUnits 0 denominator = 0 := by
  simp [roundUnits, nearest]

theorem roundUnits_eq_zero {numerator denominator : Nat} (small : 2 * numerator < denominator) :
    roundUnits numerator denominator = 0 := by
  have below : numerator < denominator := by omega
  have step : spacing 0 = 1 := rfl
  simp [roundUnits, nearest, Nat.div_eq_of_lt below, Nat.mod_eq_of_lt below, step, small]

theorem div_le_nearest (numerator denominator : Nat) :
    numerator / denominator ≤ nearest numerator denominator := by
  unfold nearest
  dsimp only
  split
  · exact Nat.le_refl _
  · split
    · omega
    · split <;> omega

theorem two_pow_le_div_mul_spacing {quotient bits : Nat} (reaches : 2 ^ bits ≤ quotient) :
    2 ^ bits ≤ quotient / spacing quotient * spacing quotient := by
  have nonzero : quotient ≠ 0 := by
    have positive := Nat.two_pow_pos bits
    omega
  have bound : bits ≤ quotient.log2 := (Nat.le_log2 nonzero).mpr reaches
  have positive : 0 < spacing quotient := Nat.two_pow_pos _
  obtain ⟨count, same⟩ : spacing quotient ∣ 2 ^ quotient.log2 :=
    Nat.pow_dvd_pow 2 (Nat.sub_le _ _)
  have within : count ≤ quotient / spacing quotient := by
    rw [Nat.le_div_iff_mul_le positive, Nat.mul_comm, ← same]
    exact Nat.log2_self_le nonzero
  calc 2 ^ bits ≤ 2 ^ quotient.log2 := Nat.pow_le_pow_right (by decide) bound
    _ = count * spacing quotient := by rw [same, Nat.mul_comm]
    _ ≤ quotient / spacing quotient * spacing quotient := Nat.mul_le_mul_right _ within

theorem two_pow_le_roundUnits {numerator denominator bits : Nat} (positive : 0 < denominator)
    (large : 2 ^ bits * denominator ≤ numerator) : 2 ^ bits ≤ roundUnits numerator denominator := by
  have reaches : 2 ^ bits ≤ numerator / denominator := (Nat.le_div_iff_mul_le positive).mpr large
  have kept := two_pow_le_div_mul_spacing reaches
  rw [Nat.div_div_eq_div_mul] at kept
  exact Nat.le_trans kept (Nat.mul_le_mul_right _ (div_le_nearest _ _))

end Quotients

section Decimals

variable {digits : Nat} {exponent : Int}

theorem ofUnits_eq_finite {negative : Bool} {numerator denominator units : Nat}
    (representable : Representable units) (rounded : roundUnits numerator denominator = units) :
    ofUnits negative numerator denominator = .finite negative units representable := by
  subst rounded
  rw [ofUnits, dif_pos representable.1]

theorem ofUnits_eq_infinite (negative : Bool) {numerator denominator : Nat}
    (large : ceiling ≤ roundUnits numerator denominator) :
    ofUnits negative numerator denominator = .infinite negative := by
  rw [ofUnits, dif_neg (Nat.not_lt.mpr large)]

theorem ofUnits_congr (negative : Bool) {numerator denominator other divisor : Nat}
    (positive : 0 < denominator) (positiveDivisor : 0 < divisor)
    (same : numerator * divisor = other * denominator) :
    ofUnits negative numerator denominator = ofUnits negative other divisor := by
  simp only [ofUnits, roundUnits_congr positive positiveDivisor same]

def decimalUnits (digits : Nat) (exponent : Int) : Nat :=
  roundUnits (digits * unitsPerOne * Nat.pow 10 exponent.toNat) (Nat.pow 10 (-exponent).toNat)

theorem decimalUnits_of_nonneg (whole : 0 ≤ exponent) :
    decimalUnits digits exponent = roundUnits (digits * unitsPerOne * 10 ^ exponent.toNat) 1 := by
  have none : (-exponent).toNat = 0 := by omega
  rw [decimalUnits, none]
  rfl

theorem decimalUnits_of_nonpos (fraction : exponent ≤ 0) :
    decimalUnits digits exponent = roundUnits (digits * unitsPerOne) (10 ^ (-exponent).toNat) := by
  have none : exponent.toNat = 0 := by omega
  rw [decimalUnits, none, Nat.pow_eq, Nat.pow_zero, Nat.mul_one]
  rfl

theorem two_pow_le_ten_pow {bits places : Nat} (enough : bits ≤ 3 * places) :
    2 ^ bits ≤ 10 ^ places :=
  calc 2 ^ bits ≤ 2 ^ (3 * places) := Nat.pow_le_pow_right (by decide) enough
    _ = 8 ^ places := Nat.pow_mul 2 3 _
    _ ≤ 10 ^ places := Nat.pow_le_pow_left (by decide) _

theorem ceiling_le_decimalUnits (nonzero : digits ≠ 0) (large : 400 < exponent) :
    ceiling ≤ decimalUnits digits exponent := by
  -- The exponents are named, so that no power of this size is ever evaluated.
  obtain ⟨bits, bounded, top⟩ : ∃ bits, bits ≤ 1200 ∧ ceiling = unitsPerOne * 2 ^ bits :=
    ⟨1024, by decide, by decide +kernel⟩
  have power : 2 ^ bits ≤ 10 ^ exponent.toNat := two_pow_le_ten_pow (by omega)
  obtain ⟨total, same⟩ : ∃ total, ceiling = 2 ^ total := ⟨2098, by decide +kernel⟩
  rw [decimalUnits_of_nonneg (by omega), same]
  refine two_pow_le_roundUnits Nat.one_pos ?_
  rw [Nat.mul_one, ← same, top]
  exact Nat.mul_le_mul (Nat.le_mul_of_pos_left _ (Nat.pos_of_ne_zero nonzero)) power

theorem decimalUnits_eq_zero (small : (Nat.toDigits 10 digits).length + exponent < -400) :
    decimalUnits digits exponent = 0 := by
  obtain ⟨places, same, enough⟩ : ∃ places,
      (-exponent).toNat = (Nat.toDigits 10 digits).length + places ∧ 400 ≤ places :=
    ⟨(-exponent).toNat - (Nat.toDigits 10 digits).length, by omega, by omega⟩
  have below : digits < 10 ^ (Nat.toDigits 10 digits).length :=
    (Nat.length_toDigits_le_iff (by decide) Nat.length_toDigits_pos).mp (Nat.le_refl _)
  obtain ⟨bits, bounded, half⟩ : ∃ bits, bits ≤ 1200 ∧ 2 * unitsPerOne = 2 ^ bits :=
    ⟨1075, by decide, by decide +kernel⟩
  rw [decimalUnits_of_nonpos (by omega), same, Nat.pow_add]
  refine roundUnits_eq_zero ?_
  calc 2 * (digits * unitsPerOne) = digits * 2 ^ bits := by rw [Nat.mul_left_comm, half]
    _ < 10 ^ (Nat.toDigits 10 digits).length * 10 ^ places :=
        Nat.mul_lt_mul_of_lt_of_le below (two_pow_le_ten_pow (by omega)) (Nat.pow_pos (by decide))

/-- The limits on decimals only save work. -/
theorem ofDecimal_eq_ofUnits (negative : Bool) (digits : Nat) (exponent : Int) :
    ofDecimal negative digits exponent =
      ofUnits negative (digits * unitsPerOne * Nat.pow 10 exponent.toNat)
        (Nat.pow 10 (-exponent).toNat) := by
  unfold ofDecimal
  split
  next zero =>
      subst zero
      refine (ofUnits_eq_finite representable_zero ?_).symm
      rw [Nat.zero_mul, Nat.zero_mul, roundUnits_zero]
  split
  next nonzero large =>
      exact (ofUnits_eq_infinite negative (ceiling_le_decimalUnits nonzero large)).symm
  split
  next small => exact (ofUnits_eq_finite representable_zero (decimalUnits_eq_zero small)).symm
  next => rfl

theorem eq_decimalUnits_of_ofDecimal {negative sign : Bool} {units : Nat}
    {representable : Representable units}
    (found : ofDecimal negative digits exponent = .finite sign units representable) :
    decimalUnits digits exponent = units := by
  rw [ofDecimal_eq_ofUnits, ofUnits] at found
  split at found
  next =>
      cases found
      rfl
  next => cases found

theorem ofDecimal_eq_finite (negative : Bool) {units : Nat} (representable : Representable units)
    (rounded : decimalUnits digits exponent = units) :
    ofDecimal negative digits exponent = .finite negative units representable := by
  rw [ofDecimal_eq_ofUnits]
  exact ofUnits_eq_finite representable rounded

theorem ofDecimal_mul_pow (negative : Bool) (digits places : Nat) (exponent : Int) :
    ofDecimal negative (digits * 10 ^ places) exponent =
      ofDecimal negative digits (exponent + places) := by
  have total : places + exponent.toNat + (-(exponent + places)).toNat =
      (exponent + places).toNat + (-exponent).toNat := by omega
  rw [ofDecimal_eq_ofUnits, ofDecimal_eq_ofUnits]
  refine ofUnits_congr negative (Nat.pow_pos (by decide)) (Nat.pow_pos (by decide)) ?_
  calc digits * 10 ^ places * unitsPerOne * 10 ^ exponent.toNat * 10 ^ (-(exponent + places)).toNat
      = digits * unitsPerOne * 10 ^ (places + exponent.toNat + (-(exponent + places)).toNat) := by
        rw [Nat.pow_add, Nat.pow_add]
        ring
    _ = digits * unitsPerOne * 10 ^ (exponent + places).toNat * 10 ^ (-exponent).toNat := by
        rw [total, Nat.pow_add, Nat.mul_assoc (digits * unitsPerOne)]

theorem ofDecimal_ne_nan (negative : Bool) (digits : Nat) (exponent : Int) :
    ofDecimal negative digits exponent ≠ .nan := by
  rw [ofDecimal_eq_ofUnits, ofUnits]
  split <;> simp

end Decimals

end Binary64

end TokenGrammar
