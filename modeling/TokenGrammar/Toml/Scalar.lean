import TokenGrammar.Binary64.Decimal
import TokenGrammar.Integer
/-!
Numbers, dates and times of TOML. A settings file has no use for their values, so they are only
recognised: each function tells whether a word is written as it should be.
-/

namespace TokenGrammar

namespace Toml

def isBarred (valid : Char → Bool) : List Char → Bool
  | [] => false
  | [digit] => valid digit
  | digit :: '_' :: rest => valid digit && isBarred valid rest
  | digit :: rest => valid digit && isBarred valid rest

def withoutBars (word : List Char) : List Char := word.filter (· ≠ '_')

def isWholePart (word : List Char) : Bool :=
  isBarred Char.isDigit word && (word.length = 1 || word.head? ≠ some '0')

def digitIn (base : Nat) (character : Char) : Option Nat :=
  let digit :=
    if character.isDigit then some (character.toNat - '0'.toNat)
    else if 'a' ≤ character ∧ character ≤ 'f' then some (character.toNat - 'a'.toNat + 10)
    else if 'A' ≤ character ∧ character ≤ 'F' then some (character.toNat - 'A'.toNat + 10)
    else none
  digit.filter (· < base)

def isBased (base : Nat) (word : List Char) : Bool :=
  isBarred (fun character => (digitIn base character).isSome) word &&
    decide ((withoutBars word).foldl (fun value character =>
      value * base + (digitIn base character).getD 0) 0 < Nat.pow 2 63)

def isDecimalInteger (word : List Char) : Bool :=
  let (negative, digits) := Binary64.splitSign word
  let size := (Nat.ofDigitChars 10 (withoutBars digits) 0 : Int)
  isWholePart digits && (Integer.ofInt? (if negative then -size else size)).isSome

def isInteger : List Char → Bool
  | '0' :: 'x' :: digits => isBased 16 digits
  | '0' :: 'o' :: digits => isBased 8 digits
  | '0' :: 'b' :: digits => isBased 2 digits
  | word => isDecimalInteger word

def isExponentMark (character : Char) : Bool := character = 'e' || character = 'E'

def isExponent : List Char → Bool
  | mark :: rest => isExponentMark mark && isBarred Char.isDigit (Binary64.splitSign rest).2
  | [] => false

def isFractional (word : List Char) : Bool :=
  let digits := (Binary64.splitSign word).2
  let whole := digits.takeWhile fun character => character ≠ '.' && !isExponentMark character
  isWholePart whole &&
    match digits.drop whole.length with
    | '.' :: rest =>
        let fraction := rest.takeWhile (!isExponentMark ·)
        let tail := rest.drop fraction.length
        isBarred Char.isDigit fraction && (tail.isEmpty || isExponent tail)
    | tail => isExponent tail

/-- A float is not so large that it would be read as an infinity; infinities are written out. -/
def isFloat (word : List Char) : Bool :=
  let name := (Binary64.splitSign word).2
  name = ['i', 'n', 'f'] || name = ['n', 'a', 'n'] ||
    (isFractional word && Binary64.ofText? (withoutBars word) ≠ some (.infinite false))

def isPair (low high : Nat) (first second : Char) : Bool :=
  let value := Nat.ofDigitChars 10 [first, second] 0
  first.isDigit && second.isDigit && low ≤ value && value ≤ high

def daysIn (year month : Nat) : Nat :=
  if month = 2 then
    if year % 4 = 0 && (year % 100 ≠ 0 || year % 400 = 0) then 29 else 28
  else if month = 4 || month = 6 || month = 9 || month = 11 then 30
  else 31

def isDate : List Char → Bool
  | [a, b, c, d, '-', m, n, '-', x, y] =>
      [a, b, c, d].all Char.isDigit && isPair 1 12 m n &&
        isPair 1 (daysIn (Nat.ofDigitChars 10 [a, b, c, d] 0) (Nat.ofDigitChars 10 [m, n] 0)) x y
  | _ => false

def afterTime? : List Char → Option (List Char)
  | h :: i :: ':' :: m :: n :: ':' :: s :: t :: rest =>
      if isPair 0 23 h i && isPair 0 59 m n && isPair 0 60 s t then
        match rest with
        | '.' :: digit :: more =>
            if digit.isDigit then some (more.dropWhile Char.isDigit) else none
        | _ => some rest
      else none
  | _ => none

def isOffset : List Char → Bool
  | ['Z'] | ['z'] => true
  | [sign, h, i, ':', m, n] =>
      (sign = '+' || sign = '-') && isPair 0 23 h i && isPair 0 59 m n
  | _ => false

def isTimeOfDay (word : List Char) : Bool :=
  match afterTime? word with
  | some rest => rest.isEmpty || isOffset rest
  | none => false

def isMoment (word : List Char) : Bool :=
  if isDate (word.take 10) then
    match word.drop 10 with
    | [] => true
    | mark :: time => (mark = 'T' || mark = 't') && isTimeOfDay time
  else afterTime? word == some []

end Toml

end TokenGrammar
