import Testbed.Decimal.Power

/-!
# Binary floating-point numbers of sixty-four bits

A finite number is a sign, a mantissa below `2 ^ 53` and a power of two not below `2 ^ -1074`;
the mantissa is as large as that allows, so each value but zero has one form. Every operation is
exact arithmetic on natural numbers and one rounding at the end, to the nearest number, a tie
going to the even mantissa.

## Main definitions

* `roundHalfEven`, `roundHalfUp` — the nearest whole number of a quotient
* `Binary64` — the numbers, with `Binary64.ofRatio` and `Binary64.ofDecimal` as roundings
* `Binary64.add`, `Binary64.mul`, `Binary64.div` — arithmetic with one rounding
* `Binary64.lt` — the order that comparisons of the numbers show

## Main results

* `roundHalfEven_mul_le`, `le_roundHalfEven_mul` — the rounded quotient is within one half
-/

namespace Testbed

/-! ### Whole numbers nearest a quotient -/

/-- The whole number nearest a quotient, the even one of two that are equally near. -/
def roundHalfEven (num den : Nat) : Nat :=
  let low := num / den
  let twice := 2 * (num % den)
  if den < twice ∨ (twice = den ∧ low % 2 = 1) then low + 1 else low

/-- The whole number nearest a quotient, the larger one of two that are equally near. -/
def roundHalfUp (num den : Nat) : Nat :=
  (2 * num + den) / (2 * den)

theorem roundHalfEven_mul_le (num den : Nat) :
    2 * (roundHalfEven num den * den) ≤ 2 * num + den := by
  have h := Nat.div_add_mod num den
  have e : den * (num / den) = num / den * den := Nat.mul_comm ..
  have e₁ : (num / den + 1) * den = num / den * den + den := Nat.succ_mul ..
  unfold roundHalfEven
  simp only
  split <;> omega

theorem le_roundHalfEven_mul (num den : Nat) (h : 0 < den) :
    2 * num ≤ 2 * (roundHalfEven num den * den) + den := by
  have hd := Nat.div_add_mod num den
  have e : den * (num / den) = num / den * den := Nat.mul_comm ..
  have e₁ : (num / den + 1) * den = num / den * den + den := Nat.succ_mul ..
  have := Nat.mod_lt num h
  unfold roundHalfEven
  simp only
  split <;> omega

/-! ### The numbers -/

/-- A number, an infinity, or no number. -/
inductive Binary64 where
  /-- The mantissa times the power of two, with a sign that zero has too. -/
  | finite (negative : Bool) (mantissa : Nat) (exponent : Int)
  | infinite (negative : Bool)
  | nan
  deriving DecidableEq, Repr, Inhabited

namespace Binary64

/-- The least power of two. -/
def minExponent : Int := -1074

/-- The greatest power of two. -/
def maxExponent : Int := 971

/-- Zero. -/
def zero : Binary64 := .finite false 0 minExponent

/-- A magnitude times a power of two, as a quotient. -/
def scale (mantissa : Nat) (exponent : Int) : Nat × Nat :=
  if 0 ≤ exponent then (mantissa * Power.two exponent.toNat, 1)
  else (mantissa, Power.two (-exponent).toNat)

/-- The quotient `num / den` in units of a power of two, rounded. -/
def unitsOf (num den : Nat) (exponent : Int) : Nat :=
  if 0 ≤ exponent then roundHalfEven num (den * Power.two exponent.toNat)
  else roundHalfEven (num * Power.two (-exponent).toNat) den

/-- The power of two in whose units a quotient has a mantissa of fifty-three bits. -/
def exponentOf (num den : Nat) : Int :=
  let guess : Int := (num.log2 : Int) - (den.log2 : Int) - 52
  let large :=
    if 0 ≤ guess then den * Power.two guess.toNat * Power.two 52 ≤ num
    else den * Power.two 52 ≤ num * Power.two (-guess).toNat
  if large then guess else guess - 1

/-- The number nearest a quotient; beyond the greatest one, an infinity. -/
def ofRatio (negative : Bool) (num den : Nat) : Binary64 :=
  if num = 0 ∨ den = 0 then .finite negative 0 minExponent
  else
    let exponent := max (exponentOf num den) minExponent
    let mantissa := unitsOf num den exponent
    let (mantissa, exponent) :=
      if mantissa = Power.two 53 then (Power.two 52, exponent + 1) else (mantissa, exponent)
    if maxExponent < exponent then .infinite negative else .finite negative mantissa exponent

/-- The number nearest a whole number. -/
def ofNat (value : Nat) : Binary64 :=
  ofRatio false value 1

/-- The number nearest `digits * 10 ^ exponent`. Exponents that no number comes near are decided
without forming the power. -/
def ofDecimal (negative : Bool) (digits : Nat) (exponent : Int) : Binary64 :=
  if digits = 0 then .finite negative 0 minExponent
  else
    let magnitude := exponent + ((Nat.toDigits 10 digits).length : Int)
    if 400 < magnitude then .infinite negative
    else if magnitude < -400 then .finite negative 0 minExponent
    else if 0 ≤ exponent then ofRatio negative (digits * Power.ten exponent.toNat) 1
    else ofRatio negative digits (Power.ten (-exponent).toNat)

/-- The magnitude of a finite number as a quotient. -/
def ratio? : Binary64 → Option (Nat × Nat)
  | .finite _ mantissa exponent => some (scale mantissa exponent)
  | _ => none

/-- The sum of the magnitudes of two numbers. -/
def add : Binary64 → Binary64 → Binary64
  | .finite _ m₁ e₁, .finite _ m₂ e₂ =>
    let (n₁, d₁) := scale m₁ e₁
    let (n₂, d₂) := scale m₂ e₂
    ofRatio false (n₁ * d₂ + n₂ * d₁) (d₁ * d₂)
  | .nan, _ => .nan
  | _, .nan => .nan
  | _, _ => .infinite false

/-- The product of a number with a positive one. -/
def mul : Binary64 → Binary64 → Binary64
  | .finite negative m₁ e₁, .finite _ m₂ e₂ =>
    let (num, den) := scale (m₁ * m₂) (e₁ + e₂)
    ofRatio negative num den
  | .finite negative .., _ => .infinite negative
  | x, _ => x

/-- The quotient of a number and a positive one. -/
def div : Binary64 → Binary64 → Binary64
  | .finite negative m₁ e₁, .finite _ m₂ e₂ =>
    let (n₁, d₁) := scale m₁ e₁
    let (n₂, d₂) := scale m₂ e₂
    ofRatio negative (n₁ * d₂) (d₁ * n₂)
  | .finite negative .., _ => .finite negative 0 minExponent
  | x, _ => x

/-- Whether the magnitude of the first of two finite numbers is below that of the second. -/
def lt : Binary64 → Binary64 → Bool
  | .finite _ m₁ e₁, .finite _ m₂ e₂ =>
    let (n₁, d₁) := scale m₁ e₁
    let (n₂, d₂) := scale m₂ e₂
    n₁ * d₂ < n₂ * d₁
  | .finite .., .infinite _ => true
  | _, _ => false

end Binary64

end Testbed
