import Testbed.Decimal.Fixed

/-!
# Whole numbers of sixty-four bits

A number is written in decimal digits; a plus sign may come first, and zeros too. The digits are
looked at from left to right, and the first that is no digit, or no longer fits, is what is wrong
with a text.

## Main definitions

* `Whole.parse` — the number that a text stands for, or what is wrong with it
-/

namespace Testbed.Whole

/-- What is wrong with a text that is no number. -/
inductive Error where
  | empty
  | invalidDigit
  | tooLarge
  deriving DecidableEq, Repr

/-- What is wrong, in words. -/
def Error.message : Error → String
  | .empty => "cannot parse integer from empty string"
  | .invalidDigit => "invalid digit found in string"
  | .tooLarge => "number too large to fit in target type"

/-- Takes digit after digit into a number. -/
def addDigits : Nat → List Char → Except Error Nat
  | value, [] => .ok value
  | value, c :: rest =>
    match Decimal.digit? c with
    | none => .error .invalidDigit
    | some digit =>
      if Power.two 64 ≤ value * 10 + digit then .error .tooLarge
      else addDigits (value * 10 + digit) rest

/-- The number that a text stands for. -/
def parse (text : String) : Except Error Nat :=
  match text.toList with
  | [] => .error .empty
  | ['+'] => .error .invalidDigit
  | '+' :: digits => addDigits 0 digits
  | digits => addDigits 0 digits

end Testbed.Whole
