import Testbed.Text.Unseen

/-!
# Texts between quotes

In a quoted text, quotes and backslashes have a backslash before them, and what would not be
seen is written as its number. A text stands on one line, whatever it holds.

## Main definitions

* `Quoted.text` — a text between quotes
-/

namespace Testbed.Quoted

/-- The digits of a number in base sixteen, without leading zeros. -/
def hexDigits (value : Nat) : List Char :=
  Nat.toDigits 16 value

/-- A character between quotes. -/
def escape (c : Char) : List Char :=
  if c = '"' then ['\\', '"']
  else if c = '\\' then ['\\', '\\']
  else if c = '\n' then ['\\', 'n']
  else if c = '\r' then ['\\', 'r']
  else if c = '\t' then ['\\', 't']
  else if c = '\x00' then ['\\', '0']
  else if Unseen.isUnseen c then ['\\', 'u', '\x7b'] ++ hexDigits c.toNat ++ ['\x7d']
  else [c]

/-- A text between quotes. -/
def text (value : String) : String :=
  "\"" ++ String.ofList (value.toList.flatMap escape) ++ "\""

end Testbed.Quoted
