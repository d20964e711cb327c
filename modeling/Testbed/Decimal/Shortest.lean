import Testbed.Decimal.Binary64

/-!
# The fewest digits that read back

Every real number of an interval around a finite number rounds to it; the ends belong to the
interval exactly when the mantissa is even. Of the decimal numbers in the interval we take one
with the fewest digits, and of those the one nearest the number, the even one of two that are
equally near. On the grid of the decimal numbers with `n` digits only the number's two
neighbours need a test: if any point of the grid is in the interval, one of them is.

## Main definitions

* `Shortest.Interval` — the reals that round to a number
* `Shortest.digits` — the digits and the power of ten
-/

namespace Testbed.Shortest

/-- The reals that round to a number, in units of `1 / den`. -/
structure Interval where
  low : Nat
  value : Nat
  high : Nat
  den : Nat
  closed : Bool

/-- The reals that round to `mantissa * 2 ^ exponent`: up to half a unit to either side, and a
quarter below a mantissa from which on the units are larger. -/
def Interval.ofFinite (mantissa : Nat) (exponent : Int) : Interval :=
  let (num, den) := Binary64.scale 1 exponent
  let below := if mantissa = Power.two 52 ∧ exponent ≠ Binary64.minExponent then 1 else 2
  { low := (4 * mantissa - below) * num
    value := 4 * mantissa * num
    high := (4 * mantissa + 2) * num
    den := 4 * den
    closed := mantissa % 2 == 0 }

/-- A power of ten as a quotient. -/
def powerOfTen (exponent : Int) : Nat × Nat :=
  if 0 ≤ exponent then (Power.ten exponent.toNat, 1) else (1, Power.ten (-exponent).toNat)

/-- Whether `digits * 10 ^ exponent` is in the interval. -/
def Interval.contains (i : Interval) (digits : Nat) (exponent : Int) : Bool :=
  let (num, den) := powerOfTen exponent
  let point := digits * num * i.den
  if i.closed then i.low * den ≤ point && point ≤ i.high * den
  else i.low * den < point && point < i.high * den

/-- The least `k` with the value below `10 ^ k`, up to one that is too large. -/
def magnitude (i : Interval) : Int :=
  let guess : Int := ((Nat.toDigits 10 i.value).length : Int) - (Nat.toDigits 10 i.den).length
  let (num, den) := powerOfTen guess
  if i.value * den < num * i.den then guess else guess + 1

/-- The neighbour of the value on a grid that is in the interval, the nearer one if both are. -/
def Interval.neighbour? (i : Interval) (exponent : Int) : Option Nat :=
  let (num, den) := powerOfTen exponent
  let top := i.value * den
  let unit := i.den * num
  let low := top / unit
  match i.contains low exponent && low ≠ 0, i.contains (low + 1) exponent with
  | true, true => some (roundHalfEven top unit)
  | true, false => some low
  | false, true => some (low + 1)
  | false, false => none

/-- The first grid, from the coarsest on, with a point in the interval. -/
def search (i : Interval) (top : Int) : Nat → Nat → Nat × Int
  | 0, n => ((i.neighbour? (top - n)).getD 0, top - n)
  | fuel + 1, n =>
    match i.neighbour? (top - n) with
    | some digits => (digits, top - n)
    | none => search i top fuel (n + 1)

/-- Drops zeros at the end of the digits. -/
def dropZeros : Nat → Nat × Int → Nat × Int
  | 0, r => r
  | fuel + 1, (digits, exponent) =>
    if digits ≠ 0 ∧ digits % 10 = 0 then dropZeros fuel (digits / 10, exponent + 1)
    else (digits, exponent)

/-- The digits and the power of ten of the shortest decimal that rounds to
`mantissa * 2 ^ exponent`. Seventeen digits always suffice. -/
def digits (mantissa : Nat) (exponent : Int) : Nat × Int :=
  if mantissa = 0 then (0, 0)
  else
    let i := Interval.ofFinite mantissa exponent
    dropZeros 20 (search i (magnitude i) 17 1)

end Testbed.Shortest
