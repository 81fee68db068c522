/-!
Binary64 numbers as exact quantities. Every finite one is a sign and a whole number of units of
2^-1074, so that order is the order of integers, a sum is an exact sum rounded once, and a product is
an exact product rounded once. The main statement is `representable_roundUnits`: a rounded quotient
below the ceiling is a magnitude of the format.
-/

namespace TokenGrammar

namespace Binary64

def ceiling : Nat := Nat.pow 2 2098

def unitsPerOne : Nat := Nat.pow 2 1074

/-- The distance between neighbouring magnitudes of the format around `units`, which keep 53 bits. -/
def spacing (units : Nat) : Nat := Nat.pow 2 (units.log2 - 52)

def Representable (units : Nat) : Prop := units < ceiling ∧ spacing units ∣ units

instance (units : Nat) : Decidable (Representable units) := by
  unfold Representable
  infer_instance

theorem ceiling_pos : 0 < ceiling := Nat.two_pow_pos 2098

theorem representable_zero : Representable 0 := ⟨ceiling_pos, Nat.dvd_zero _⟩

/-- The whole number nearest to a quotient; a half goes to the even neighbour. -/
def nearest (numerator denominator : Nat) : Nat :=
  let quotient := numerator / denominator
  let twice := 2 * (numerator % denominator)
  if twice < denominator then quotient
  else if denominator < twice then quotient + 1
  else if quotient % 2 = 0 then quotient else quotient + 1

def roundUnits (numerator denominator : Nat) : Nat :=
  let step := spacing (numerator / denominator)
  nearest numerator (denominator * step) * step

theorem nearest_le (numerator denominator : Nat) :
    nearest numerator denominator ≤ numerator / denominator + 1 := by
  unfold nearest
  dsimp only
  split
  · omega
  · split
    · omega
    · split <;> omega

theorem log2_lt_of_lt_two_pow {value bits : Nat} (below : value < Nat.pow 2 bits)
    (positive : 0 < bits) : value.log2 < bits := by
  by_cases zero : value = 0
  · subst zero
    simpa using positive
  · exact (Nat.log2_lt zero).mpr below

theorem spacing_dvd_scaled {count shift : Nat} (bounded : count ≤ Nat.pow 2 53) :
    spacing (count * Nat.pow 2 shift) ∣ count * Nat.pow 2 shift := by
  unfold spacing
  simp only [Nat.pow_eq] at bounded ⊢
  by_cases small : count < 2 ^ 53
  · have below : count * 2 ^ shift < 2 ^ (53 + shift) := by
      rw [Nat.pow_add]
      exact (Nat.mul_lt_mul_right (Nat.two_pow_pos shift)).mpr small
    have bits := log2_lt_of_lt_two_pow below (by omega)
    exact Nat.dvd_trans (Nat.pow_dvd_pow 2 (by omega)) (Nat.dvd_mul_left _ _)
  · have full : count = 2 ^ 53 := by omega
    subst full
    rw [← Nat.pow_add, Nat.log2_two_pow]
    exact Nat.pow_dvd_pow 2 (by omega)

theorem spacing_dvd_roundUnits (numerator denominator : Nat) :
    spacing (roundUnits numerator denominator) ∣ roundUnits numerator denominator := by
  unfold roundUnits
  dsimp only
  apply spacing_dvd_scaled
  have bound := nearest_le numerator (denominator * spacing (numerator / denominator))
  have quotient : numerator / (denominator * spacing (numerator / denominator)) < 2 ^ 53 := by
    rw [← Nat.div_div_eq_div_mul]
    apply (Nat.div_lt_iff_lt_mul (Nat.two_pow_pos _)).mpr
    rw [← Nat.pow_add]
    have size := Nat.lt_log2_self (n := numerator / denominator)
    exact Nat.lt_of_lt_of_le size (Nat.pow_le_pow_right (by decide) (by omega))
  rw [Nat.pow_eq]
  omega

theorem representable_roundUnits {numerator denominator : Nat}
    (below : roundUnits numerator denominator < ceiling) :
    Representable (roundUnits numerator denominator) :=
  ⟨below, spacing_dvd_roundUnits numerator denominator⟩

end Binary64

/-- A binary64 number; a finite one counts units of 2^-1074. -/
inductive Binary64 where
  | nan
  | infinite (negative : Bool)
  | finite (negative : Bool) (units : Nat) (representable : Binary64.Representable units)
  deriving DecidableEq

namespace Binary64

def zero : Binary64 := .finite false 0 representable_zero

instance : Inhabited Binary64 := ⟨zero⟩

def ofUnits (negative : Bool) (numerator denominator : Nat) : Binary64 :=
  if below : roundUnits numerator denominator < ceiling then
    .finite negative (roundUnits numerator denominator) (representable_roundUnits below)
  else
    .infinite negative

def ofInt (value : Int) : Binary64 :=
  ofUnits (decide (value < 0)) (value.natAbs * unitsPerOne) 1

def negate : Binary64 → Binary64
  | .nan => .nan
  | .infinite negative => .infinite !negative
  | .finite negative units representable => .finite (!negative) units representable

def signed (negative : Bool) (units : Nat) : Int := if negative then -(units : Int) else units

/-- The exact sum, rounded; an exact zero is negative only if both terms are. -/
def add : Binary64 → Binary64 → Binary64
  | .finite negative units _, .finite otherNegative otherUnits _ =>
      let sum := signed negative units + signed otherNegative otherUnits
      if sum = 0 then .finite (negative && otherNegative) 0 representable_zero
      else ofUnits (decide (sum < 0)) sum.natAbs 1
  | .infinite negative, .infinite otherNegative =>
      if negative = otherNegative then .infinite negative else .nan
  | .infinite negative, .finite .. => .infinite negative
  | .finite .., .infinite negative => .infinite negative
  | _, _ => .nan

def sub (left right : Binary64) : Binary64 := add left (negate right)

def mul : Binary64 → Binary64 → Binary64
  | .finite negative units _, .finite otherNegative otherUnits _ =>
      ofUnits (negative != otherNegative) (units * otherUnits) unitsPerOne
  | .infinite negative, .infinite otherNegative => .infinite (negative != otherNegative)
  | .infinite negative, .finite otherNegative units _ =>
      if units = 0 then .nan else .infinite (negative != otherNegative)
  | .finite negative units _, .infinite otherNegative =>
      if units = 0 then .nan else .infinite (negative != otherNegative)
  | _, _ => .nan

def rank? : Binary64 → Option Int
  | .nan => none
  | .infinite negative => some (signed negative ceiling)
  | .finite negative units _ => some (signed negative units)

def compare? (left right : Binary64) : Option Ordering :=
  match left.rank?, right.rank? with
  | some first, some second => some (compare first second)
  | _, _ => none

def equals (left right : Binary64) : Bool := left.compare? right == some .eq

end Binary64

end TokenGrammar
