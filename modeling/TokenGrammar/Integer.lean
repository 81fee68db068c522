/-!
Integers of 64 bits: which integers fit, and their decimal text.
-/

namespace TokenGrammar

namespace Integer

def ofInt? (value : Int) : Option Int64 :=
  if Int64.minValue.toInt ≤ value ∧ value ≤ Int64.maxValue.toInt then some (Int64.ofInt value)
  else none

def text (value : Int64) : List Char :=
  let digits := Nat.toDigits 10 value.toInt.natAbs
  if value.toInt < 0 then '-' :: digits else digits

theorem toInt_of_ofInt? {value : Int} {found : Int64} (fits : ofInt? value = some found) :
    found.toInt = value := by
  unfold ofInt? at fits
  split at fits
  next bounds =>
    have same := Option.some.inj fits
    subst same
    rw [Int64.toInt_minValue, Int64.toInt_maxValue] at bounds
    exact Int64.toInt_ofInt_of_le (by omega) (by omega)
  next => simp at fits

end Integer

end TokenGrammar
