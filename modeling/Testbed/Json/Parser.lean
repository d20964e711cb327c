import Testbed.Decimal.Fixed
import Testbed.Json.Basic
import Testbed.Text.Hex

/-!
# Reading JSON text

The grammar is strict: no blanks but four characters, no leading zeros, no comma at the end, no
control characters in a text, no half of a surrogate pair, and at most one hundred and
twenty-seven containers inside one another.

A number keeps as many of its digits as fit sixty-four bits. They and the power of ten are
rounded first and multiplied or divided after that, so a floating-point number may be one step
from the nearest one. A number that is too large is refused, and one that is too small is zero.

## Main definitions

* `Json.readNumber?`, `Json.readText?`, `Json.readValue?` — what stands at the front of a text
* `Json.parse?` — the value that a whole text stands for
-/

namespace Testbed.Json

/-- The rest after blanks. -/
def skipBlanks (chars : List Char) : List Char :=
  chars.dropWhile fun c => c = ' ' || c = '\n' || c = '\r' || c = '\t'

/-! ### Numbers -/

/-- The largest number of sixty-four bits. -/
def maxWhole : Nat := Power.two 64 - 1

/-- A power of ten as a floating-point number. -/
def powerOfTen (exponent : Nat) : Binary64 :=
  Binary64.ofDecimal false 1 exponent

/-- Digits times a power of ten. A negative power beyond the range is divided out in steps of
the greatest power of ten. -/
def scaled? : Nat → Binary64 → Int → Option Binary64
  | 0, f, _ => some f
  | fuel + 1, f, exponent =>
    if exponent.natAbs ≤ 308 then
      if 0 ≤ exponent then
        match f.mul (powerOfTen exponent.natAbs) with
        | .infinite _ => none
        | product => some product
      else some (f.div (powerOfTen exponent.natAbs))
    else
      match f with
      | .finite _ 0 _ => some f
      | _ =>
        if 0 ≤ exponent then none
        else scaled? fuel (f.div (powerOfTen 308)) (exponent + 308)

/-- The number with these digits and power of ten, with a sign. -/
def float? (negative : Bool) (digits : Nat) (exponent : Int) : Option Json :=
  match scaled? 4 (Binary64.ofNat digits) exponent with
  | some (.finite _ mantissa power) => some (.float (.finite negative mantissa power))
  | _ => none

/-- Takes digits into a number as long as it fits sixty-four bits: the number, how many digits
were taken, and the rest. -/
def takeDigits : Nat → Nat → List Char → Nat × Nat × List Char
  | value, taken, [] => (value, taken, [])
  | value, taken, c :: rest =>
    match Decimal.digit? c with
    | none => (value, taken, c :: rest)
    | some digit =>
      if maxWhole < value * 10 + digit then (value, taken, c :: rest)
      else takeDigits (value * 10 + digit) (taken + 1) rest

/-- A sign and digits of an exponent. Beyond the range of thirty-two bits it makes the number
zero, or too large. -/
def readExponent? (negative : Bool) (digits : Nat) (start : Int) (chars : List Char) :
    Option (Json × List Char) :=
  let (down, chars) := Binary64.readSign chars
  let written := chars.takeWhile Decimal.isDigit
  let rest := chars.dropWhile Decimal.isDigit
  if written.isEmpty then none
  else
    let exponent := Decimal.ofDigits written
    let value :=
      if Power.two 31 ≤ exponent then
        if digits ≠ 0 ∧ ¬ down then none
        else some (.float (.finite negative 0 Binary64.minExponent))
      else float? negative digits (if down then start - exponent else start + exponent)
    value.map fun value => (value, rest)

/-- An exponent, if one follows, and the number. -/
def finishFloat? (negative : Bool) (digits : Nat) (exponent : Int) (chars : List Char) :
    Option (Json × List Char) :=
  match chars with
  | c :: rest =>
    if c = 'e' ∨ c = 'E' then readExponent? negative digits exponent rest
    else (float? negative digits exponent).map fun value => (value, c :: rest)
  | [] => (float? negative digits exponent).map fun value => (value, [])

/-- The digits after a point, at least one; those that no longer fit are passed over. -/
def readFraction? (negative : Bool) (digits : Nat) (exponent : Int) (chars : List Char) :
    Option (Json × List Char) :=
  if (chars.takeWhile Decimal.isDigit).isEmpty then none
  else
    let (digits, taken, rest) := takeDigits digits 0 chars
    finishFloat? negative digits (exponent - taken) (rest.dropWhile Decimal.isDigit)

/-- What follows the whole part of a number. -/
def finishNumber? (negative : Bool) (digits : Nat) (chars : List Char) :
    Option (Json × List Char) :=
  match chars with
  | '.' :: rest => readFraction? negative digits 0 rest
  | c :: rest =>
    if c = 'e' ∨ c = 'E' then readExponent? negative digits 0 rest
    else some (wholeValue, c :: rest)
  | [] => some (wholeValue, [])
where
  /-- Negative zero, and what lies below the signed numbers, is a floating-point number. -/
  wholeValue : Json :=
    if ¬ negative then .whole digits
    else
      match Binary64.ofNat digits with
      | .finite _ mantissa power =>
        if digits = 0 ∨ Power.two 63 < digits then .float (.finite true mantissa power)
        else .whole (-(digits : Int))
      | _ => .whole (-(digits : Int))

/-- A number after its sign. -/
def readMagnitude? (negative : Bool) (chars : List Char) : Option (Json × List Char) :=
  match chars with
  | '0' :: rest =>
    if (rest.takeWhile Decimal.isDigit).isEmpty then finishNumber? negative 0 rest else none
  | chars =>
    if (chars.takeWhile Decimal.isDigit).isEmpty then none
    else
      let (digits, _, rest) := takeDigits 0 0 chars
      let beyond := rest.takeWhile Decimal.isDigit
      if beyond.isEmpty then finishNumber? negative digits rest
      else
        match rest.dropWhile Decimal.isDigit with
        | '.' :: rest => readFraction? negative digits beyond.length rest
        | rest => finishFloat? negative digits beyond.length rest

/-- A number. -/
def readNumber? : List Char → Option (Json × List Char)
  | '-' :: rest => readMagnitude? true rest
  | chars => readMagnitude? false chars

/-! ### Texts -/

/-- Four hexadecimal digits. -/
def readUnit? : List Char → Option (Nat × List Char)
  | a :: b :: c :: d :: rest =>
    match Hex.value? a, Hex.value? b, Hex.value? c, Hex.value? d with
    | some a, some b, some c, some d => some (((a * 16 + b) * 16 + c) * 16 + d, rest)
    | _, _, _, _ => none
  | _ => none

/-- The character that one or two escaped units stand for. -/
def readEscaped? (chars : List Char) : Option (Char × List Char) :=
  match readUnit? chars with
  | none => none
  | some (unit, rest) =>
    if 0xDC00 ≤ unit ∧ unit ≤ 0xDFFF then none
    else if 0xD800 ≤ unit ∧ unit ≤ 0xDBFF then
      match rest with
      | '\\' :: 'u' :: rest =>
        match readUnit? rest with
        | some (low, rest) =>
          if 0xDC00 ≤ low ∧ low ≤ 0xDFFF then
            some (Char.ofNat (0x10000 + (unit - 0xD800) * 0x400 + (low - 0xDC00)), rest)
          else none
        | none => none
      | _ => none
    else some (Char.ofNat unit, rest)

/-- The character that a letter after a backslash stands for. -/
def simpleEscape? : Char → Option Char
  | '"' => some '"'
  | '\\' => some '\\'
  | '/' => some '/'
  | 'b' => some '\x08'
  | 'f' => some '\x0c'
  | 'n' => some '\n'
  | 'r' => some '\r'
  | 't' => some '\t'
  | _ => none

/-- The characters up to the closing quote, in reverse, and the rest. -/
def readText? : Nat → List Char → List Char → Option (String × List Char)
  | 0, _, _ => none
  | fuel + 1, done, chars =>
    match chars with
    | [] => none
    | '"' :: rest => some (String.ofList done.reverse, rest)
    | '\\' :: 'u' :: rest =>
      match readEscaped? rest with
      | some (c, rest) => readText? fuel (c :: done) rest
      | none => none
    | '\\' :: letter :: rest =>
      match simpleEscape? letter with
      | some c => readText? fuel (c :: done) rest
      | none => none
    | c :: rest => if c = '\\' ∨ c.toNat < 32 then none else readText? fuel (c :: done) rest

/-! ### Values -/

/-- What is left after a fixed word. -/
def readWord? (word : String) (value : Json) (chars : List Char) : Option (Json × List Char) :=
  if word.toList.isPrefixOf chars then some (value, chars.drop word.length) else none

mutual

/-- A value after blanks, with so many containers left to open. A bracket, an item or a member
takes up to two steps and at least one character, so that twice as many steps as characters, and
two, are enough for the value and for the texts in it. -/
def readValue? : Nat → Nat → List Char → Option (Json × List Char)
  | 0, _, _ => none
  | fuel + 1, depth, chars =>
    match skipBlanks chars with
    | '[' :: rest =>
      if depth ≤ 1 then none
      else
        match skipBlanks rest with
        | ']' :: rest => some (.array [], rest)
        | rest => readItems? fuel (depth - 1) [] rest
    | '\x7b' :: rest =>
      if depth ≤ 1 then none
      else
        match skipBlanks rest with
        | '\x7d' :: rest => some (.object [], rest)
        | rest => readMembers? fuel (depth - 1) [] rest
    | '"' :: rest =>
      (readText? fuel [] rest).map fun read => (.text read.1, read.2)
    | 'n' :: rest => readWord? "ull" .null rest
    | 't' :: rest => readWord? "rue" (.bool true) rest
    | 'f' :: rest => readWord? "alse" (.bool false) rest
    | chars => readNumber? chars

/-- The items of an array from one item on, after those before it in reverse. -/
def readItems? : Nat → Nat → List Json → List Char → Option (Json × List Char)
  | 0, _, _, _ => none
  | fuel + 1, depth, done, chars =>
    match readValue? fuel depth chars with
    | none => none
    | some (item, rest) =>
      match skipBlanks rest with
      | ',' :: rest => readItems? fuel depth (item :: done) rest
      | ']' :: rest => some (.array (item :: done).reverse, rest)
      | _ => none

/-- The members of an object from one member on, after those before it. -/
def readMembers? : Nat → Nat → List (String × Json) → List Char → Option (Json × List Char)
  | 0, _, _, _ => none
  | fuel + 1, depth, done, chars =>
    match skipBlanks chars with
    | '"' :: rest =>
      match readText? fuel [] rest with
      | none => none
      | some (name, rest) =>
        match skipBlanks rest with
        | ':' :: rest =>
          match readValue? fuel depth rest with
          | none => none
          | some (value, rest) =>
            let done := Table.insert name value done
            match skipBlanks rest with
            | ',' :: rest => readMembers? fuel depth done rest
            | '\x7d' :: rest => some (.object done, rest)
            | _ => none
        | _ => none
    | _ => none

end

/-- How many containers may be opened, and one more. -/
def maxDepth : Nat := 128

/-- The value that a whole text stands for. -/
def parse? (text : String) : Option Json :=
  let chars := text.toList
  match readValue? (2 * chars.length + 2) maxDepth chars with
  | some (value, rest) => if (skipBlanks rest).isEmpty then some value else none
  | none => none

end Testbed.Json
