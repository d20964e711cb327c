import Testbed.Decimal.Binary64

/-!
# Numbers to a fixed number of places

The exact value of a number is rounded to so many decimal places, a tie going to the even digit;
the sign is kept, also of zero.

## Main definitions

* `Decimal.fixed` — the digits of a quotient to a number of places
* `Binary64.fixed` — the same of a number, with the names of what is not finite
* `Binary64.parse?` — the number that a text stands for
-/

namespace Testbed

namespace Decimal

/-- A whole number of units of the last place, with a point before that many digits. -/
def placed (places units : Nat) : String :=
  if places = 0 then toString units
  else
    let fraction := toString (units % Power.ten places)
    toString (units / Power.ten places) ++ "." ++
      String.ofList (List.replicate (places - fraction.length) '0') ++ fraction

/-- A quotient to so many places. -/
def fixed (places num den : Nat) : String :=
  placed places (roundHalfEven (num * Power.ten places) den)

/-- The value of a decimal digit. -/
def digit? (c : Char) : Option Nat :=
  if '0' ≤ c ∧ c ≤ '9' then some (c.toNat - 48) else none

/-- Whether a character is a decimal digit. -/
def isDigit (c : Char) : Bool :=
  (digit? c).isSome

/-- The number that decimal digits stand for. -/
def ofDigits (digits : List Char) : Nat :=
  digits.foldl (fun value c => value * 10 + (digit? c).getD 0) 0

end Decimal

namespace Binary64

/-- A number to so many places. -/
def fixed (places : Nat) : Binary64 → String
  | .finite negative mantissa exponent =>
    let (num, den) := scale mantissa exponent
    (if negative then "-" else "") ++ Decimal.fixed places num den
  | .infinite negative => if negative then "-inf" else "inf"
  | .nan => "NaN"

/-- A sign at the front of a text, and the rest. -/
def readSign : List Char → Bool × List Char
  | '-' :: rest => (true, rest)
  | '+' :: rest => (false, rest)
  | chars => (false, chars)

/-- The exponent that ends a decimal number: nothing, or a mark, a sign and digits. -/
def readExponent? : List Char → Option Int
  | [] => some 0
  | mark :: rest =>
    if mark ≠ 'e' ∧ mark ≠ 'E' then none
    else
      let (negative, digits) := readSign rest
      if digits.isEmpty ∨ ¬ digits.all Decimal.isDigit then none
      else if negative then some (-(Decimal.ofDigits digits : Int))
      else some (Decimal.ofDigits digits : Int)

/-- Digits with a point among them or not, at least one digit in all, and an exponent. -/
def readMagnitude? (negative : Bool) (chars : List Char) : Option Binary64 :=
  let whole := chars.takeWhile Decimal.isDigit
  let rest := chars.dropWhile Decimal.isDigit
  let (fraction, rest) :=
    match rest with
    | '.' :: rest => (rest.takeWhile Decimal.isDigit, rest.dropWhile Decimal.isDigit)
    | rest => ([], rest)
  if whole.isEmpty ∧ fraction.isEmpty then none
  else
    (readExponent? rest).map fun exponent =>
      ofDecimal negative (Decimal.ofDigits (whole ++ fraction)) (exponent - (fraction.length : Int))

/-- The number that a text stands for: a sign if need be, and digits or the name of what is not
finite, in either case of letters. -/
def parse? (text : String) : Option Binary64 :=
  let (negative, chars) := readSign text.toList
  let name := String.ofList (chars.map Char.toLower)
  if name = "inf" ∨ name = "infinity" then some (.infinite negative)
  else if name = "nan" then some .nan
  else readMagnitude? negative chars

end Binary64

end Testbed
