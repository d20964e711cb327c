/-!
# Hexadecimal text

Bytes are shown as two lower-case digits each, the high half first; a digit is read in either
case.

## Main definitions

* `Hex.digit`, `Hex.value?` — one digit as text, and back
* `Hex.ofBytes` — a list of bytes as text

## Main results

* `Hex.value?_digit` — a written digit reads back
-/

namespace Testbed.Hex

/-- The lower-case digit of a value below sixteen. -/
def digit (value : Nat) : Char :=
  if value < 10 then Char.ofNat (48 + value) else Char.ofNat (87 + value)

/-- The value of a digit in either case. -/
def value? (c : Char) : Option Nat :=
  if '0' ≤ c ∧ c ≤ '9' then some (c.toNat - 48)
  else if 'a' ≤ c ∧ c ≤ 'f' then some (c.toNat - 87)
  else if 'A' ≤ c ∧ c ≤ 'F' then some (c.toNat - 55)
  else none

theorem value?_digit : ∀ value < 16, value? (digit value) = some value := by decide

/-- The two digits of a byte. -/
def ofByte (byte : UInt8) : List Char :=
  [digit (byte.toNat / 16), digit (byte.toNat % 16)]

/-- Two digits for each byte. -/
def charsOfBytes (bytes : List UInt8) : List Char :=
  bytes.flatMap ofByte

/-- Two digits for each byte, as text. -/
def ofBytes (bytes : List UInt8) : String :=
  String.ofList (charsOfBytes bytes)

theorem length_charsOfBytes (bytes : List UInt8) :
    (charsOfBytes bytes).length = 2 * bytes.length := by
  induction bytes with
  | nil => rfl
  | cons b bs ih => simp_all [charsOfBytes, ofByte]; omega

end Testbed.Hex
