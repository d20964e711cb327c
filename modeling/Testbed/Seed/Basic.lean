import Testbed.Text.Hex

/-!
# Seeds

A seed is sixteen bytes, shown as thirty-two hexadecimal digits. A text is read two bytes of
its encoding at a time: each pair must be a piece of the text of its own, and a number in base
sixteen. A number may carry a plus sign, so `+f` is a pair too, and stands for fifteen.

## Main definitions

* `Seed` — sixteen bytes
* `Seed.ofUInt64` — a small number as a seed
* `Seed.text` — the digits
* `Seed.parse` — and back, with what is wrong with a text that is no seed
-/

namespace Testbed

/-- Sixteen bytes that fix every random draw of a run. -/
structure Seed where
  bytes : List UInt8
  length_bytes : bytes.length = 16
  deriving DecidableEq

namespace Seed

/-! ### Writing -/

/-- Thirty-two lower-case digits. -/
def text (seed : Seed) : String :=
  Hex.ofBytes seed.bytes

/-- The digits with the name of what they are, for diagnostics. -/
def debugText (seed : Seed) : String :=
  "Seed(" ++ seed.text ++ ")"

instance : ToString Seed := ⟨text⟩

instance : Repr Seed := ⟨fun seed _ => seed.debugText⟩

/-- The low eight bytes of a word, least significant first. -/
def wordBytes (word : UInt64) : List UInt8 :=
  (List.range 8).map fun i => (word >>> (8 * i.toUInt64)).toUInt8

@[simp] theorem length_wordBytes (word : UInt64) : (wordBytes word).length = 8 := by
  simp [wordBytes]

/-- A number as a seed: its eight bytes, least significant first, and eight zero bytes. -/
def ofUInt64 (value : UInt64) : Seed :=
  ⟨wordBytes value ++ List.replicate 8 0, by simp⟩

/-! ### Reading -/

/-- What is wrong with a text that is no seed. -/
inductive ParseError where
  /-- It does not take thirty-two bytes. -/
  | wrongLength
  /-- Two bytes at an even place are no piece of the text. -/
  | notAscii
  /-- Two bytes at an even place are no number in base sixteen. -/
  | notHexadecimal
  deriving DecidableEq, Repr

/-- The words an error is reported with. -/
def ParseError.reason : ParseError → String
  | .wrongLength => "wrong length"
  | .notAscii => "not ascii"
  | .notHexadecimal => "not hexadecimal"

/-- The number of bytes that characters take. -/
def byteLength : List Char → Nat
  | [] => 0
  | c :: rest => c.utf8Size + byteLength rest

/-- The value of a pair: two digits, or a plus sign before one. -/
def pairValue? (first second : Char) : Option UInt8 :=
  match Hex.value? second with
  | none => none
  | some low =>
    if first = '+' then some low.toUInt8
    else (Hex.value? first).map fun high => (16 * high + low).toUInt8

/-- Reads pair after pair. A character of two bytes fills a pair and is no number; a longer one,
and one of two bytes that starts in the middle of a pair, is cut by the edge of a pair. -/
def readPairs : List Char → Except ParseError (List UInt8)
  | [] => .ok []
  | first :: rest =>
    if first.utf8Size = 2 then .error .notHexadecimal
    else if first.utf8Size ≠ 1 then .error .notAscii
    else
      match rest with
      | [] => .error .notAscii
      | second :: rest =>
        if second.utf8Size ≠ 1 then .error .notAscii
        else
          match pairValue? first second with
          | none => .error .notHexadecimal
          | some byte =>
            match readPairs rest with
            | .error e => .error e
            | .ok bytes => .ok (byte :: bytes)

/-- Each pair of bytes gives one byte. -/
theorem byteLength_of_readPairs {chars : List Char} {bytes : List UInt8}
    (h : readPairs chars = .ok bytes) : byteLength chars = 2 * bytes.length := by
  fun_induction readPairs chars generalizing bytes with
  | case1 => simp_all [byteLength]
  | case8 first _ hf second rest hs byte _ read hr ih =>
    have := ih hr
    simp_all [byteLength]
    subst h
    simp
    omega
  | _ => simp at h

/-- The seed that a text of thirty-two bytes in sixteen numbers stands for. -/
def parse (text : String) : Except ParseError Seed :=
  if h : byteLength text.toList ≠ 32 then .error .wrongLength
  else
    match hr : readPairs text.toList with
    | .error e => .error e
    | .ok bytes => .ok ⟨bytes, by have := byteLength_of_readPairs hr; omega⟩

end Seed

end Testbed
