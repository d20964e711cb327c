/-!
# Powers of two and of ten

The two bases in which numbers are scaled: words and mantissas in powers of two, decimal places
in powers of ten.

## Main definitions

* `Power.two`, `Power.ten` — the powers
-/

namespace Testbed.Power

/-- A power of two. -/
def two (exponent : Nat) : Nat :=
  Nat.pow 2 exponent

/-- A power of ten. -/
def ten (exponent : Nat) : Nat :=
  Nat.pow 10 exponent

end Testbed.Power
