import Testbed.Decimal.Power
import Testbed.Seed.Basic
import Testbed.Seed.Digest

/-!
# The generator behind random draws

The xoshiro256** generator: four words of state, of which every draw gives one word. All other
draws are made of words. `Generator.callSeeded` lends the generator to a computation under a
seed and takes it back as it was.

## Main definitions

* `Generator.ofSeed` — the state that a seed fixes
* `Generator.nextWord` — one draw
* `Generator.bytes`, `Generator.text` — draws made of several
* `Generator.callSeeded` — a computation under a seed of its own

## Main results

* `Generator.callSeeded_some_snd` — under a seed, the state afterwards is the state before
* `Generator.callSeeded_some_fst` — and what is drawn depends on the seed alone
-/

namespace Testbed

/-- The state of a generator. -/
structure Generator where
  word₀ : UInt64
  word₁ : UInt64
  word₂ : UInt64
  word₃ : UInt64
  deriving DecidableEq, Repr

namespace Generator

/-! ### Seeding -/

/-- A word from up to eight bytes, least significant first. -/
def wordOfBytes (bytes : List UInt8) : UInt64 :=
  bytes.foldr (fun byte word => (word <<< 8) ||| byte.toUInt64) 0

/-- The state that a seed fixes: its digest as four words. -/
def ofSeed (seed : Seed) : Generator :=
  let digest := Digest.sha256 seed.bytes
  let word (i : Nat) : UInt64 := wordOfBytes ((digest.drop (8 * i)).take 8)
  ⟨word 0, word 1, word 2, word 3⟩

/-! ### Drawing -/

/-- Moves the bits of a word to the left, those that leave it coming back on the right. -/
def rotateLeft (word amount : UInt64) : UInt64 :=
  (word <<< amount) ||| (word >>> (64 - amount))

/-- One draw: a scrambled word of the state, and the next state. -/
def nextWord (g : Generator) : UInt64 × Generator :=
  let drawn := rotateLeft (g.word₁ * 5) 7 * 9
  let word₂ := g.word₂ ^^^ g.word₀
  let word₃ := g.word₃ ^^^ g.word₁
  (drawn,
    { word₀ := g.word₀ ^^^ word₃
      word₁ := g.word₁ ^^^ word₂
      word₂ := word₂ ^^^ (g.word₁ <<< 17)
      word₃ := rotateLeft word₃ 45 })

/-- The word that the next draw gives. -/
def peek (g : Generator) : UInt64 :=
  g.nextWord.1

/-- The high half of one draw. -/
def nextHalf (g : Generator) : UInt32 × Generator :=
  let (word, g) := g.nextWord
  ((word >>> 32).toUInt32, g)

/-- The bytes of a half word, least significant first. -/
def halfBytes (half : UInt32) : List UInt8 :=
  [half.toUInt8, (half >>> 8).toUInt8, (half >>> 16).toUInt8, (half >>> 24).toUInt8]

/-- Whole draws, least significant byte first; a rest of up to four bytes takes half a draw, and
a longer one the first bytes of a whole one. -/
def bytes : Nat → Generator → List UInt8 × Generator
  | 0, g => ([], g)
  | n + 8, g =>
    let (word, g) := g.nextWord
    let (rest, g) := bytes n g
    (Seed.wordBytes word ++ rest, g)
  | n, g =>
    if n ≤ 4 then
      let (half, g) := g.nextHalf
      ((halfBytes half).take n, g)
    else
      let (word, g) := g.nextWord
      ((Seed.wordBytes word).take n, g)

theorem length_bytes (n : Nat) (g : Generator) : (bytes n g).1.length = n := by
  fun_induction bytes n g with
  | case1 => rfl
  | case2 n g word g' h rest g'' h' ih => simp_all; omega
  | case3 => simp_all [halfBytes]
  | case4 n _ _ hn =>
    have : n < 8 := Nat.lt_of_not_le fun h => hn (n - 8) (by omega)
    simp
    omega

/-- How often a draw below a bound is repeated before it counts as zero. A draw is refused with
a probability below one half, so no run comes to this. -/
def maxRefusals : Nat := 4096

/-- A draw below thirty-six: the high word of the product of a draw with thirty-six, if the low
word is in the range in which all products are equally frequent. -/
def nextBelow36 : Nat → Generator → Nat × Generator
  | 0, g => (0, g)
  | tries + 1, g =>
    let (word, g) := g.nextWord
    let product := word.toNat * 36
    if product % Power.two 64 < 36 * Power.two 58 then (product / Power.two 64, g)
    else nextBelow36 tries g

/-- The letters and digits that random text is made of. -/
def alphabet : List Char :=
  "abcdefghijklmnopqrstuvwxyz0123456789".toList

/-- So many letters and digits, each a draw. -/
def chars : Nat → Generator → List Char × Generator
  | 0, g => ([], g)
  | n + 1, g =>
    let (i, g) := nextBelow36 maxRefusals g
    let (rest, g) := chars n g
    (alphabet.getD i 'a' :: rest, g)

/-- Random text of so many letters and digits. -/
def text (n : Nat) (g : Generator) : String × Generator :=
  let (drawn, g) := chars n g
  (String.ofList drawn, g)

/-! ### A seed for the time of one computation -/

/-- Runs a computation on the generator of `seed` and hands the generator back as it was, or,
without a seed, on the generator itself. A computation that is broken off is a result like any
other, so the state comes back on that way out too. -/
def callSeeded {α : Type} (seed : Option Seed) (g : Generator) (body : Generator → α × Generator) :
    α × Generator :=
  match seed with
  | none => body g
  | some seed => ((body (ofSeed seed)).1, g)

@[simp] theorem callSeeded_none {α : Type} (g : Generator) (body : Generator → α × Generator) :
    callSeeded none g body = body g := rfl

@[simp] theorem callSeeded_some_fst {α : Type} (seed : Seed) (g : Generator)
    (body : Generator → α × Generator) :
    (callSeeded (some seed) g body).1 = (body (ofSeed seed)).1 := rfl

@[simp] theorem callSeeded_some_snd {α : Type} (seed : Seed) (g : Generator)
    (body : Generator → α × Generator) :
    (callSeeded (some seed) g body).2 = g := rfl

end Generator

/-! ### Chains of seeds -/

/-- The next link of a chain: sixteen bytes drawn under the seed. -/
def Seed.derive (seed : Seed) : Seed :=
  ⟨(Generator.bytes 16 (Generator.ofSeed seed)).1, Generator.length_bytes ..⟩

/-- The seeds of the four phases of a testset. -/
structure SeedChain where
  setup : Seed
  test : Seed
  testTeardown : Seed
  teardown : Seed
  deriving DecidableEq, Repr

/-- The first phase has the seed of the run, and each later one is derived from the phase
before. -/
def SeedChain.ofSeed (seed : Seed) : SeedChain :=
  { setup := seed
    test := seed.derive
    testTeardown := seed.derive.derive
    teardown := seed.derive.derive.derive }

end Testbed
