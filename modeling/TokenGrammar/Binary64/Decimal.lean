import TokenGrammar.Binary64
/-!
Decimal text of binary64 numbers, reading side. A number is digits, an optional point and an optional
exponent, or a name for infinity or no number; the value read is the number nearest to the decimal.
-/

namespace TokenGrammar

namespace Binary64

/-- The number nearest to `digits * 10 ^ exponent`. Beyond a few hundred places either way the answer
is an infinity or a zero, whatever the digits are. -/
def ofDecimal (negative : Bool) (digits : Nat) (exponent : Int) : Binary64 :=
  if digits = 0 then .finite negative 0 representable_zero
  else if 400 < exponent then .infinite negative
  else if (Nat.toDigits 10 digits).length + exponent < -400 then
    .finite negative 0 representable_zero
  else
    ofUnits negative (digits * unitsPerOne * Nat.pow 10 exponent.toNat)
      (Nat.pow 10 (-exponent).toNat)

def splitSign : List Char → Bool × List Char
  | '-' :: rest => (true, rest)
  | '+' :: rest => (false, rest)
  | text => (false, text)

def exponentOf? : List Char → Option Int
  | [] => some 0
  | mark :: rest =>
      if mark = 'e' || mark = 'E' then
        match splitSign rest with
        | (negative, digits) =>
            if digits.isEmpty || !digits.all Char.isDigit then none
            else
              let size := (Nat.ofDigitChars 10 digits 0 : Int)
              some (if negative then -size else size)
      else none

/-- An unsigned numeral: digits with a point among them at most once, at least one digit, and an
optional exponent. -/
def unsignedOf? (negative : Bool) (text : List Char) : Option Binary64 :=
  let whole := text.takeWhile Char.isDigit
  let afterWhole := text.dropWhile Char.isDigit
  let (fraction, tail) := match afterWhole with
    | '.' :: rest => (rest.takeWhile Char.isDigit, rest.dropWhile Char.isDigit)
    | rest => ([], rest)
  if whole.isEmpty && fraction.isEmpty then none
  else
    (exponentOf? tail).map fun exponent =>
      ofDecimal negative (Nat.ofDigitChars 10 (whole ++ fraction) 0) (exponent - fraction.length)

/-- Reads a number: a numeral, or `inf`, `infinity` or `nan` in any case, after an optional sign. -/
def ofText? (text : List Char) : Option Binary64 :=
  let (negative, rest) := splitSign text
  let name := rest.map Char.toLower
  if name = ['i', 'n', 'f'] || name = ['i', 'n', 'f', 'i', 'n', 'i', 't', 'y'] then
    some (.infinite negative)
  else if name = ['n', 'a', 'n'] then some .nan
  else unsignedOf? negative rest

end Binary64

end TokenGrammar
