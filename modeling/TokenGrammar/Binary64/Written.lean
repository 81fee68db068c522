import TokenGrammar.Binary64.Shortest
/-!
Decimal text of binary64 numbers, writing side: the shortest digits, laid out either positionally or
with an exponent.
-/

namespace TokenGrammar

namespace Binary64

/-- The significant digits of a decimal, and the place of the point: the value is
`0.digits * 10 ^ place`. -/
def Decimal.significant (decimal : Decimal) : List Char × Int :=
  let digits := Nat.toDigits 10 decimal.digits
  ((digits.reverse.dropWhile (· = '0')).reverse, digits.length + decimal.exponent)

def positional (digits : List Char) (place : Int) (whole : List Char) : List Char :=
  if place ≤ 0 then '0' :: '.' :: (List.replicate (-place).toNat '0' ++ digits)
  else if place.toNat < digits.length then
    digits.take place.toNat ++ '.' :: digits.drop place.toNat
  else digits ++ List.replicate (place.toNat - digits.length) '0' ++ whole

def scientific (digits : List Char) (place : Int) : List Char :=
  let mantissa := match digits with
    | [] => ['0']
    | [digit] => [digit]
    | digit :: rest => digit :: '.' :: rest
  let power := place - 1
  let exponent :=
    if power < 0 then '-' :: Nat.toDigits 10 power.natAbs else Nat.toDigits 10 power.natAbs
  mantissa ++ 'e' :: exponent

def withSign (negative : Bool) (text : List Char) : List Char :=
  if negative then '-' :: text else text

/-- The text of a number: positional for zero and from 10^-4 up to but not including 10^16, with at
least one digit after the point; with an exponent elsewhere. -/
def text : Binary64 → List Char
  | .nan => ['N', 'a', 'N']
  | .infinite negative => withSign negative ['i', 'n', 'f']
  | .finite negative units _ =>
      if units = 0 then withSign negative ['0', '.', '0']
      else
        let (digits, place) := (shortest units).significant
        withSign negative <|
          if -4 < place && place ≤ 16 then positional digits place ['.', '0']
          else scientific digits place

def plainText : Binary64 → List Char
  | .nan => ['N', 'a', 'N']
  | .infinite negative => withSign negative ['i', 'n', 'f']
  | .finite negative units _ =>
      if units = 0 then withSign negative ['0']
      else
        let (digits, place) := (shortest units).significant
        withSign negative (positional digits place [])

end Binary64

end TokenGrammar
