import Testbed.Decimal.Shortest
import Testbed.Json.Basic
import Testbed.Text.Hex

/-!
# Compact JSON text

No blanks; in a text only quotes, backslashes and control characters are escaped. A
floating-point number has the fewest digits that read back. It is written with a point, and a
zero after it if nothing else follows, while its first digit stands within sixteen places before
or five places after the point, and otherwise with an exponent.

## Main definitions

* `Json.floatText` — a floating-point number
* `Json.quoted` — a text between quotes
* `Json.compact` — a value
-/

namespace Testbed.Json

/-! ### Numbers -/

/-- How a floating-point number is laid out around its digits. -/
structure FloatLayout where
  /-- The first digit is at most so many places before the point. -/
  wholePlaces : Int
  /-- At most so many zeros follow the point before the first digit. -/
  leadingZeros : Int
  /-- What a positive exponent starts with. -/
  positiveMark : String

/-- The layout of compact text. -/
def floatLayout : FloatLayout := ⟨16, 4, "+"⟩

/-- So many zeros. -/
def zeros (count : Nat) : String :=
  String.ofList (List.replicate count '0')

/-- Digits whose value is `0.digits * 10 ^ point`. -/
def layOut (layout : FloatLayout) (digits : String) (point : Int) : String :=
  let count : Int := digits.length
  if 0 < point ∧ point ≤ layout.wholePlaces then
    if count ≤ point then digits ++ zeros (point - count).toNat ++ ".0"
    else
      let whole := digits.toList.take point.toNat
      let fraction := digits.toList.drop point.toNat
      String.ofList whole ++ "." ++ String.ofList fraction
  else if point ≤ 0 ∧ -layout.leadingZeros ≤ point then
    "0." ++ zeros (-point).toNat ++ digits
  else
    let first := String.ofList (digits.toList.take 1)
    let rest := digits.toList.drop 1
    let fraction := if rest.isEmpty then "" else "." ++ String.ofList rest
    let mark := if 0 < point then layout.positiveMark else ""
    first ++ fraction ++ "e" ++ mark ++ toString (point - 1)

/-- A floating-point number; what is not finite has no text of its own. -/
def floatText : Binary64 → String
  | .finite negative mantissa exponent =>
    let sign := if negative then "-" else ""
    if mantissa = 0 then sign ++ "0.0"
    else
      let (digits, power) := Shortest.digits mantissa exponent
      let digits := toString digits
      sign ++ layOut floatLayout digits (power + (digits.length : Int))
  | _ => "null"

/-! ### Texts -/

/-- A character between quotes. -/
def escape (c : Char) : List Char :=
  if c = '"' then ['\\', '"']
  else if c = '\\' then ['\\', '\\']
  else if c = '\n' then ['\\', 'n']
  else if c = '\r' then ['\\', 'r']
  else if c = '\t' then ['\\', 't']
  else if c = '\x08' then ['\\', 'b']
  else if c = '\x0c' then ['\\', 'f']
  else if c.toNat < 32 then ['\\', 'u', '0', '0'] ++ Hex.ofByte c.toNat.toUInt8
  else [c]

/-- A text between quotes. -/
def quoted (text : String) : String :=
  "\"" ++ String.ofList (text.toList.flatMap escape) ++ "\""

/-! ### Values -/

mutual

/-- A value without blanks. -/
def compact : Json → String
  | .null => "null"
  | .bool value => if value then "true" else "false"
  | .whole value => toString value
  | .float value => floatText value
  | .text value => quoted value
  | .array items => "[" ++ ",".intercalate (compactItems items) ++ "]"
  | .object members => "\x7b" ++ ",".intercalate (compactMembers members) ++ "\x7d"

/-- The items of an array, each as text. -/
def compactItems : List Json → List String
  | [] => []
  | item :: rest => compact item :: compactItems rest

/-- The members of an object, each as text. -/
def compactMembers : List (String × Json) → List String
  | [] => []
  | (name, value) :: rest => (quoted name ++ ":" ++ compact value) :: compactMembers rest

end

end Testbed.Json
