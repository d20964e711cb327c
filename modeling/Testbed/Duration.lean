import Testbed.Decimal.Binary64

/-!
# Spans of time

A span is a whole number of nanoseconds. It is shown in the largest unit of which it has at
least one, with as many decimal places as it needs.

## Main definitions

* `Duration` — a span, with `Duration.ofSecs`, `Duration.ofMillis`
* `Duration.seconds` — the span in seconds, as a floating-point number
* `Duration.text` — the span with its unit
-/

namespace Testbed

/-- A span of time. -/
structure Duration where
  nanos : Nat
  deriving DecidableEq, Repr, Inhabited

namespace Duration

/-- The nanoseconds in a second. -/
def nanosPerSec : Nat := 1000000000

/-- The nanoseconds in a thousandth of a second. -/
def nanosPerMilli : Nat := 1000000

/-- The nanoseconds in a millionth of a second. -/
def nanosPerMicro : Nat := 1000

/-- No time at all. -/
def zero : Duration := ⟨0⟩

/-- A whole number of seconds. -/
def ofSecs (secs : Nat) : Duration := ⟨secs * nanosPerSec⟩

/-- A whole number of thousandths of a second. -/
def ofMillis (millis : Nat) : Duration := ⟨millis * nanosPerMilli⟩

/-- The whole thousandths of a second in a span. -/
def millis (d : Duration) : Nat := d.nanos / nanosPerMilli

/-- A span in seconds: the whole seconds and the rest are rounded each, and so is their sum. -/
def seconds (d : Duration) : Binary64 :=
  (Binary64.ofNat (d.nanos / nanosPerSec)).add
    (Binary64.ofRatio false (d.nanos % nanosPerSec) nanosPerSec)

/-- A number of units of which `one` is a whole, with the decimal places it needs. -/
def inUnits (amount one : Nat) : String :=
  let places := (toString one).length - 1
  let fraction := toString (one + amount % one)
  let kept := ((fraction.toList.drop 1).take places).reverse.dropWhile (· = '0') |>.reverse
  toString (amount / one) ++ if kept.isEmpty then "" else "." ++ String.ofList kept

/-- A span with its unit. -/
def text (d : Duration) : String :=
  if nanosPerSec ≤ d.nanos then inUnits d.nanos nanosPerSec ++ "s"
  else if nanosPerMilli ≤ d.nanos then inUnits d.nanos nanosPerMilli ++ "ms"
  else if nanosPerMicro ≤ d.nanos then inUnits d.nanos nanosPerMicro ++ "µs"
  else toString d.nanos ++ "ns"

end Duration

end Testbed
