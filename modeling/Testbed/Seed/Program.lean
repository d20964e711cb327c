import Testbed.Seed.Generator

/-!
# Programs of draws

A program draws from a generator, reseeds it, and lends it to inner programs under a seed or
without one. An inner program may be broken off; the break is caught outside its scope, so the
program around it goes on. Between the draws a program may look at the generator and leave it as
it is.

## Main definitions

* `Draw` — one step of a program
* `Draw.run`, `Draw.runAll` — what each step gives, and the word that would be drawn after it
-/

namespace Testbed

/-- One step of a program of draws. -/
inductive Draw where
  | word
  | half
  | bytes (count : Nat)
  | text (length : Nat)
  | reseed (seed : Seed)
  /-- Draws nothing. -/
  | look
  /-- An inner program, under a seed of its own or on the generator as it is. -/
  | scope (seed : Option Seed) (body : List Draw)
  /-- Breaks off the innermost scope. -/
  | breakOff

mutual

/-- What a step of a program gave. -/
inductive Drawn where
  | word (value : UInt64)
  | half (value : UInt32)
  | bytes (value : List UInt8)
  | text (value : String)
  | reseeded
  | looked
  | scope (inner : List Sample) (broken : Bool)

/-- What a step gave, and the word that the generator would give after it. -/
inductive Sample where
  | mk (drawn : Drawn) (next : UInt64)

end

namespace Draw

/-- The samples of the steps that were taken, whether the program was broken off, and the
generator. -/
abbrev Run := (List Sample × Bool) × Generator

mutual

/-- What one step gives and the generator after it; nothing for the break. -/
def run : Draw → Generator → Option Drawn × Generator
  | .word, g => (some (.word g.nextWord.1), g.nextWord.2)
  | .half, g => (some (.half g.nextHalf.1), g.nextHalf.2)
  | .bytes count, g => (some (.bytes (g.bytes count).1), (g.bytes count).2)
  | .text length, g => (some (.text (g.text length).1), (g.text length).2)
  | .reseed seed, _ => (some .reseeded, Generator.ofSeed seed)
  | .look, g => (some .looked, g)
  | .scope seed body, g =>
    let result := Generator.callSeeded seed g fun g => runAll body g
    (some (.scope result.1.1 result.1.2), result.2)
  | .breakOff, g => (none, g)

/-- Takes the steps in order up to a break. -/
def runAll : List Draw → Generator → Run
  | [], g => (([], false), g)
  | draw :: rest, g =>
    match run draw g with
    | (none, g) => (([], true), g)
    | (some drawn, g) =>
      let result := runAll rest g
      ((.mk drawn g.peek :: result.1.1, result.1.2), result.2)

end

end Draw

end Testbed
