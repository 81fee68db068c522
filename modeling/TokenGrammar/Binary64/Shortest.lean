import TokenGrammar.Binary64.Decimal
/-!
The shortest decimal of a magnitude: the fewest digits that read back to it, and among those the digits
nearest to it.
-/

namespace TokenGrammar

namespace Binary64

structure Decimal where
  digits : Nat
  exponent : Int
  deriving DecidableEq, Repr

def exactDecimal (units : Nat) : Decimal := ⟨units * Nat.pow 5 1074, -1074⟩

def leadingPlace (units : Nat) : Int :=
  (Nat.toDigits 10 (units * Nat.pow 10 400 / unitsPerOne)).length - 400

def Decimal.readsBack (decimal : Decimal) (units : Nat) : Bool :=
  match ofDecimal false decimal.digits decimal.exponent with
  | .finite _ found _ => found == units
  | _ => false

/-- Of two decimals around a magnitude the nearer one that reads back; of two equally near ones the
larger. -/
def nearerOf? (units : Nat) (below above : Decimal) (nearerBelow : Bool) : Option Decimal :=
  match below.readsBack units, above.readsBack units with
  | true, true => some (if nearerBelow then below else above)
  | true, false => some below
  | false, true => some above
  | false, false => none

def decimalOf? (units : Nat) (count : Nat) : Option Decimal :=
  let exponent := leadingPlace units - count
  let numerator := units * Nat.pow 10 (-exponent).toNat
  let denominator := unitsPerOne * Nat.pow 10 exponent.toNat
  let nearerBelow := decide (2 * (numerator % denominator) < denominator)
  nearerOf? units ⟨numerator / denominator, exponent⟩ ⟨numerator / denominator + 1, exponent⟩
    nearerBelow

/-- The shortest decimal of a magnitude. Seventeen digits always suffice; the exact decimal closes the
definition. -/
def shortest (units : Nat) : Decimal :=
  ((List.range' 1 17).findSome? (decimalOf? units)).getD (exactDecimal units)

end Binary64

end TokenGrammar
