import Testbed.Decimal.Power

/-!
# SHA-256

The digest that stretches a seed of sixteen bytes over the whole state of a generator, so that
every bit of the seed reaches every word. The schedule is kept as a window of sixteen words that
moves by one word a round.

## Main definitions

* `Digest.compress` — one block of sixteen words
* `Digest.sha256` — the thirty-two bytes of a message's digest
-/

namespace Testbed.Digest

/-- The eight words that a block is folded into. -/
structure Words where
  a : UInt32
  b : UInt32
  c : UInt32
  d : UInt32
  e : UInt32
  f : UInt32
  g : UInt32
  h : UInt32
  deriving DecidableEq

/-- The fractional parts of the square roots of the first eight primes. -/
def initial : Words :=
  ⟨0x6a09e667, 0xbb67ae85, 0x3c6ef372, 0xa54ff53a, 0x510e527f, 0x9b05688c, 0x1f83d9ab, 0x5be0cd19⟩

/-- The fractional parts of the cube roots of the first sixty-four primes. -/
def constants : List UInt32 :=
  [0x428a2f98, 0x71374491, 0xb5c0fbcf, 0xe9b5dba5, 0x3956c25b, 0x59f111f1, 0x923f82a4, 0xab1c5ed5,
   0xd807aa98, 0x12835b01, 0x243185be, 0x550c7dc3, 0x72be5d74, 0x80deb1fe, 0x9bdc06a7, 0xc19bf174,
   0xe49b69c1, 0xefbe4786, 0x0fc19dc6, 0x240ca1cc, 0x2de92c6f, 0x4a7484aa, 0x5cb0a9dc, 0x76f988da,
   0x983e5152, 0xa831c66d, 0xb00327c8, 0xbf597fc7, 0xc6e00bf3, 0xd5a79147, 0x06ca6351, 0x14292967,
   0x27b70a85, 0x2e1b2138, 0x4d2c6dfc, 0x53380d13, 0x650a7354, 0x766a0abb, 0x81c2c92e, 0x92722c85,
   0xa2bfe8a1, 0xa81a664b, 0xc24b8b70, 0xc76c51a3, 0xd192e819, 0xd6990624, 0xf40e3585, 0x106aa070,
   0x19a4c116, 0x1e376c08, 0x2748774c, 0x34b0bcb5, 0x391c0cb3, 0x4ed8aa4a, 0x5b9cca4f, 0x682e6ff3,
   0x748f82ee, 0x78a5636f, 0x84c87814, 0x8cc70208, 0x90befffa, 0xa4506ceb, 0xbef9a3f7, 0xc67178f2]

/-- Moves the bits of a word to the right, those that leave it coming back on the left. -/
def rotateRight (word amount : UInt32) : UInt32 :=
  (word >>> amount) ||| (word <<< (32 - amount))

/-- Folds one word of the schedule, with its round's constant, into the eight words. -/
def round (w : Words) (constant word : UInt32) : Words :=
  let sum₁ := rotateRight w.e 6 ^^^ rotateRight w.e 11 ^^^ rotateRight w.e 25
  let choice := (w.e &&& w.f) ^^^ (~~~ w.e &&& w.g)
  let first := w.h + sum₁ + choice + constant + word
  let sum₀ := rotateRight w.a 2 ^^^ rotateRight w.a 13 ^^^ rotateRight w.a 22
  let majority := (w.a &&& w.b) ^^^ (w.a &&& w.c) ^^^ (w.b &&& w.c)
  ⟨first + (sum₀ + majority), w.a, w.b, w.c, w.d + first, w.e, w.f, w.g⟩

/-- The word that enters the window when its first word leaves. -/
def nextWord (window : List UInt32) : UInt32 :=
  let at? (i : Nat) : UInt32 := window.getD i 0
  let low := rotateRight (at? 1) 7 ^^^ rotateRight (at? 1) 18 ^^^ (at? 1 >>> 3)
  let high := rotateRight (at? 14) 17 ^^^ rotateRight (at? 14) 19 ^^^ (at? 14 >>> 10)
  at? 0 + low + at? 9 + high

/-- One round for each constant, over a window that moves along the schedule. -/
def rounds : List UInt32 → List UInt32 → Words → Words
  | [], _, w => w
  | constant :: rest, window, w =>
    rounds rest (window.tail ++ [nextWord window]) (round w constant (window.headD 0))

/-- Folds a block of sixteen words into the eight words. -/
def compress (w : Words) (block : List UInt32) : Words :=
  let r := rounds constants block w
  ⟨w.a + r.a, w.b + r.b, w.c + r.c, w.d + r.d, w.e + r.e, w.f + r.f, w.g + r.g, w.h + r.h⟩

/-- Folds in so many blocks, one after the other. -/
def absorb : Nat → List UInt32 → Words → Words
  | 0, _, w => w
  | n + 1, words, w => absorb n (words.drop 16) (compress w (words.take 16))

/-- Big-endian words. -/
def wordsOfBytes : List UInt8 → List UInt32
  | a :: b :: c :: d :: rest =>
    ((a.toUInt32 <<< 24) ||| (b.toUInt32 <<< 16) ||| (c.toUInt32 <<< 8) ||| d.toUInt32) ::
      wordsOfBytes rest
  | _ => []

/-- The four bytes of a word, most significant first. -/
def bytesOfWord (word : UInt32) : List UInt8 :=
  [(word >>> 24).toUInt8, (word >>> 16).toUInt8, (word >>> 8).toUInt8, word.toUInt8]

/-- The message, a one bit, zeros, and the message's length in bits as the last eight bytes of a
whole number of blocks. -/
def pad (message : List UInt8) : List UInt8 :=
  let zeros := (119 - message.length % 64) % 64
  let bits := message.length * 8
  message ++ 0x80 :: List.replicate zeros 0 ++
    (List.range 8).map fun i => (bits / Power.two (8 * (7 - i))).toUInt8

/-- The thirty-two bytes of a message's digest. -/
def sha256 (message : List UInt8) : List UInt8 :=
  let words := wordsOfBytes (pad message)
  let w := absorb (words.length / 16) words initial
  [w.a, w.b, w.c, w.d, w.e, w.f, w.g, w.h].flatMap bytesOfWord

end Testbed.Digest
