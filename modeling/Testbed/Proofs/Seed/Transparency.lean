import Testbed.Seed.Program

/-!
# Computations under a seed of their own

A computation may look at what it drew, lend its generator to an inner computation under a seed or
without one, and be broken off at any point. A break goes outwards through any number of scopes,
up to one that was prepared for it, and every scope on its way gives the generator back.

So a scope under a seed is not noticed around it. It can be put in anywhere, or taken out, and
all other draws are the same. A scope without a seed is its body.

## What is deliberately absent

There is no relation between the states of generators, only equality. A computation may ask for the
whole state, so two states that could not be told apart by draws would not do.

## Main definitions

* `Drawing` — a computation that draws
* `Drawing.run` — what it draws, how it ends, and the generator after it
* `Drawing.bind`, `Drawing.inlined` — scopes without a seed replaced by their bodies
* `Drawing.Inserts` — one computation with scopes put into another
* `Drawing.Spliced` — one record with scopes put into another
* `Draw.drawingAll` — programs of draws as computations

## Main results

* `Draw.run_drawingAll` — a program of draws runs as the computation that it is
* `Drawing.run_inlined` — a scope without a seed is its body
* `Drawing.run_inserts` — a scope under a seed is not noticed around it
* `Drawing.scopes_are_transparent`
-/

namespace Testbed

/-! ### Computations -/

/-- What a computation asks its generator for. -/
inductive Drawing.Query where
  | word
  | half
  | bytes (count : Nat)
  | text (length : Nat)
  /-- The whole state. Nothing is drawn. -/
  | state

namespace Drawing.Query

/-- What is had for a query. -/
def Answer : Query → Type
  | .word => UInt64
  | .half => UInt32
  | .bytes _ => List UInt8
  | .text _ => String
  | .state => Generator

/-- What a generator gives, and the generator after it. -/
def answer : (query : Query) → Generator → query.Answer × Generator
  | .word, g => g.nextWord
  | .half, g => g.nextHalf
  | .bytes count, g => g.bytes count
  | .text length, g => g.text length
  | .state, g => (g, g)

end Drawing.Query

/-- A computation that draws. It ends with a value or is broken off with one. -/
inductive Drawing (V : Type) where
  | done (value : V)
  /-- Breaks off. -/
  | panic (payload : V)
  | ask (query : Drawing.Query) (next : query.Answer → Drawing V)
  | reseed (seed : Seed) (next : Drawing V)
  /-- An inner computation, under a seed of its own or on the generator as it is. -/
  | scope (seed : Option Seed) (body : Drawing V) (next : V → Drawing V)
  /-- An inner computation, which may be broken off. -/
  | attempt (body : Drawing V) (next : Except V V → Drawing V)

namespace Drawing

/-- What a computation is given, in order. -/
inductive Record where
  | given (query : Query) (answer : query.Answer)
  /-- What an inner computation is given under a seed of its own. -/
  | under (seed : Seed) (inner : List Record)

/-- What a computation is given, and how it ends. -/
structure Course (V : Type) where
  records : List Record
  ending : Except V V

/-- The course of a computation, and the generator after it. -/
abbrev Run (V : Type) := Course V × Generator

variable {V : Type}

/-- A run that comes after some records. -/
def Run.after (ran : Run V) (records : List Record) : Run V :=
  (⟨records ++ ran.1.records, ran.1.ending⟩, ran.2)

/-- Goes on after a value, and not after a break. -/
def Run.goOn (ran : Run V) (next : V → Generator → Run V) : Run V :=
  match ran.1.ending with
  | .ok value => (next value ran.2).after ran.1.records
  | .error _ => ran

/-- A run in a scope. Without a seed, what is given in the scope is no different from what is given
around it. -/
def Run.within (seed : Option Seed) (ran : Run V) : Run V :=
  match seed with
  | none => ran
  | some seed => (⟨[.under seed ran.1.records], ran.1.ending⟩, ran.2)

/-- What a computation is given by a generator, how it ends, and the generator after it. -/
def run : Drawing V → Generator → Run V
  | .done value, g => (⟨[], .ok value⟩, g)
  | .panic payload, g => (⟨[], .error payload⟩, g)
  | .ask query next, g =>
    let given := query.answer g
    ((next given.1).run given.2).after [.given query given.1]
  | .reseed seed next, _ => next.run (Generator.ofSeed seed)
  | .scope seed body next, g =>
    (Run.within seed (Generator.callSeeded seed g body.run)).goOn fun value => (next value).run
  | .attempt body next, g =>
    let inner := body.run g
    ((next inner.1.ending).run inner.2).after inner.1.records

section run

variable (ran : Run V) (next : V → Generator → Run V)

theorem Run.after_after (records later : List Record) :
    (ran.after later).after records = ran.after (records ++ later) := by
  simp [after]

theorem Run.goOn_after (records : List Record) :
    (ran.after records).goOn next = (ran.goOn next).after records := by
  obtain ⟨⟨given, ending⟩, g⟩ := ran
  cases ending with
  | ok value => exact (Run.after_after ..).symm
  | error payload => rfl

/-- Nothing is done after a run. -/
theorem Run.goOn_done : ran.goOn (fun value => (done value).run) = ran := by
  obtain ⟨⟨given, ending⟩, g⟩ := ran
  cases ending with
  | ok value => simp [goOn, after, run]
  | error payload => rfl

theorem Run.goOn_goOn (later : V → Generator → Run V) :
    (ran.goOn next).goOn later = ran.goOn fun value g => (next value g).goOn later := by
  obtain ⟨⟨given, ending⟩, g⟩ := ran
  cases ending with
  | ok value => exact Run.goOn_after (next value g) later given
  | error payload => rfl

end run

theorem run_scope_done (seed : Option Seed) (body : Drawing V) (g : Generator) :
    (scope seed body .done).run g = Run.within seed (Generator.callSeeded seed g body.run) := by
  rw [run]
  exact Run.goOn_done _

/-- Under a seed, the generator afterwards is the one before, however the body ends; and the body
has the generator of the seed. -/
theorem run_under (seed : Seed) (body : Drawing V) (g : Generator) :
    (scope (some seed) body .done).run g =
      (⟨[.under seed (body.run (Generator.ofSeed seed)).1.records],
        (body.run (Generator.ofSeed seed)).1.ending⟩, g) :=
  run_scope_done (some seed) body g

end Drawing

/-! ### Programs of draws -/

namespace Draw

/-- The samples that were taken, and whether the program was broken off. -/
abbrev Taken := List Sample × Bool

mutual

/-- One step of a program as a computation, after which it goes on. `taken` are the samples before
it. -/
def drawing : Draw → List Sample → (Drawn → Drawing Taken) → Drawing Taken
  | .word, _, next => .ask .word fun value => next (.word value)
  | .half, _, next => .ask .half fun value => next (.half value)
  | .bytes count, _, next => .ask (.bytes count) fun value => next (.bytes value)
  | .text length, _, next => .ask (.text length) fun value => next (.text value)
  | .reseed seed, _, next => .reseed seed (next .reseeded)
  | .look, _, next => next .looked
  | .scope seed body, _, next =>
    .attempt (.scope seed (drawingAll body []) .done) fun
      | .ok taken => next (.scope taken.1 taken.2)
      | .error taken => next (.scope taken.1 taken.2)
  | .breakOff, taken, _ => .panic (taken, true)

/-- A program as a computation. After each step it looks at the word that would be drawn. -/
def drawingAll : List Draw → List Sample → Drawing Taken
  | [], taken => .done (taken, false)
  | draw :: rest, taken =>
    drawing draw taken fun drawn =>
      .ask .state fun g => drawingAll rest (taken ++ [.mk drawn g.peek])

end

/-- How a program ends: with its samples, after those that were taken before. -/
def endingOf (taken : List Sample) (result : Taken) : Except Taken Taken :=
  if result.2 then .error (taken ++ result.1, true) else .ok (taken ++ result.1, false)

/-- What a step comes to, in a computation that goes on after it. -/
def Goes (ran : Drawing.Run Taken) (taken : List Sample) (next : Drawn → Drawing Taken)
    (result : Option Drawn × Generator) : Prop :=
  match result with
  | (none, g) => ran.1.ending = .error (taken, true) ∧ ran.2 = g
  | (some drawn, g) =>
    ran.1.ending = ((next drawn).run g).1.ending ∧ ran.2 = ((next drawn).run g).2

/-- What a program comes to as a computation. -/
def Comes (ran : Drawing.Run Taken) (taken : List Sample) (result : Run) : Prop :=
  ran.1.ending = endingOf taken result.1 ∧ ran.2 = result.2

theorem Comes.within {body : Generator → Drawing.Run Taken} {body' : Generator → Run}
    {taken : List Sample} (h : ∀ g, Comes (body g) taken (body' g)) (seed : Option Seed)
    (g : Generator) :
    Comes (Drawing.Run.within seed (Generator.callSeeded seed g body)) taken
      (Generator.callSeeded seed g body') := by
  cases seed with
  | none => exact h g
  | some seed => exact ⟨(h (Generator.ofSeed seed)).1, rfl⟩

mutual

theorem run_drawing (draw : Draw) (taken : List Sample) (next : Drawn → Drawing Taken)
    (g : Generator) : Goes ((drawing draw taken next).run g) taken next (run draw g) := by
  cases draw with
  | scope seed body =>
    have hinner := Comes.within (fun g => run_drawingAll body [] g) seed g
    rw [← Drawing.run_scope_done] at hinner
    obtain ⟨hending, hgenerator⟩ := hinner
    rw [drawing, Drawing.run, run, hending, hgenerator, endingOf]
    -- Broken off or not, the samples of the scope are those that were taken in it.
    cases hbroken : (Generator.callSeeded seed g fun g => runAll body g).1.2 <;>
      simp [Goes, Drawing.Run.after]
  | _ => exact ⟨rfl, rfl⟩

theorem run_drawingAll (draws : List Draw) (taken : List Sample) (g : Generator) :
    Comes ((drawingAll draws taken).run g) taken (runAll draws g) := by
  cases draws with
  | nil => exact ⟨by simp [drawingAll, Drawing.run, endingOf, runAll], rfl⟩
  | cons draw rest =>
    have hdraw := run_drawing draw taken
      (fun drawn => .ask .state fun g => drawingAll rest (taken ++ [.mk drawn g.peek])) g
    rw [drawingAll, runAll]
    generalize run draw g = result at hdraw
    obtain ⟨drawn, g⟩ := result
    cases drawn with
    | none =>
      obtain ⟨hending, hgenerator⟩ := hdraw
      exact ⟨by rw [hending]; simp [endingOf], hgenerator⟩
    | some drawn =>
      obtain ⟨hending, hgenerator⟩ := hdraw
      obtain ⟨hending', hgenerator'⟩ := run_drawingAll rest (taken ++ [.mk drawn g.peek]) g
      refine ⟨hending.trans (hending'.trans ?_), hgenerator.trans hgenerator'⟩
      simp [endingOf]

end

end Draw

namespace Drawing

variable {V : Type}

/-! ### Scopes without a seed -/

/-- One computation after the other. -/
def bind : Drawing V → (V → Drawing V) → Drawing V
  | .done value, later => later value
  | .panic payload, _ => .panic payload
  | .ask query next, later => .ask query fun answer => (next answer).bind later
  | .reseed seed next, later => .reseed seed (next.bind later)
  | .scope seed body next, later => .scope seed body fun value => (next value).bind later
  | .attempt body next, later => .attempt body fun ending => (next ending).bind later

theorem run_bind (drawing : Drawing V) (later : V → Drawing V) (g : Generator) :
    (drawing.bind later).run g = (drawing.run g).goOn fun value => (later value).run := by
  induction drawing generalizing g with
  | done value => rfl
  | panic payload => rfl
  | ask query next ih => rw [bind, run, ih, ← Run.goOn_after, run]
  | reseed seed next ih => exact ih _
  | scope seed body next _ ih =>
    rw [bind, run, run, Run.goOn_goOn]
    congr
    funext value g
    exact ih value g
  | attempt body next _ ih => rw [bind, run, ih, ← Run.goOn_after, run]

/-- The computation with the body in the place of every scope without a seed. -/
def inlined : Drawing V → Drawing V
  | .done value => .done value
  | .panic payload => .panic payload
  | .ask query next => .ask query fun answer => (next answer).inlined
  | .reseed seed next => .reseed seed next.inlined
  | .scope none body next => body.inlined.bind fun value => (next value).inlined
  | .scope (some seed) body next =>
    .scope (some seed) body.inlined fun value => (next value).inlined
  | .attempt body next => .attempt body.inlined fun ending => (next ending).inlined

theorem run_inlined (drawing : Drawing V) : drawing.inlined.run = drawing.run := by
  funext g
  induction drawing generalizing g with
  | done value => rfl
  | panic payload => rfl
  | ask query next ih => rw [inlined, run, run, ih]
  | reseed seed next ih => exact ih _
  | scope seed body next ihbody ih =>
    have hnext : (fun value => (next value).inlined.run) = fun value => (next value).run := by
      funext value g
      exact ih value g
    cases seed with
    | none => rw [inlined, run_bind, ihbody, hnext]; rfl
    | some seed => rw [inlined, run, run, funext ihbody, hnext]
  | attempt body next ihbody ih => rw [inlined, run, run, ihbody, ih]

/-! ### Scopes under a seed -/

/-- The second computation is the first, with scopes under seeds of their own put in at any places.
A scope that is put in returns, or its break is caught right outside it, and nothing is made of what
it comes to. -/
inductive Inserts : Drawing V → Drawing V → Prop where
  | done (value : V) : Inserts (.done value) (.done value)
  | panic (payload : V) : Inserts (.panic payload) (.panic payload)
  | ask {query : Query} {next next' : query.Answer → Drawing V}
      (h : ∀ answer, Inserts (next answer) (next' answer)) :
      Inserts (.ask query next) (.ask query next')
  | reseed (seed : Seed) {next next' : Drawing V} (h : Inserts next next') :
      Inserts (.reseed seed next) (.reseed seed next')
  | scope (seed : Option Seed) {body body' : Drawing V} {next next' : V → Drawing V}
      (hbody : Inserts body body') (h : ∀ value, Inserts (next value) (next' value)) :
      Inserts (.scope seed body next) (.scope seed body' next')
  | attempt {body body' : Drawing V} {next next' : Except V V → Drawing V}
      (hbody : Inserts body body') (h : ∀ ending, Inserts (next ending) (next' ending)) :
      Inserts (.attempt body next) (.attempt body' next')
  | caught (seed : Seed) (extra : Drawing V) {drawing drawing' : Drawing V}
      (h : Inserts drawing drawing') :
      Inserts drawing (.attempt (.scope (some seed) extra .done) fun _ => drawing')
  | returned (seed : Seed) (extra : Drawing V) {drawing drawing' : Drawing V} {value : V}
      (hreturned : (extra.run (Generator.ofSeed seed)).1.ending = .ok value)
      (h : Inserts drawing drawing') :
      Inserts drawing (.scope (some seed) extra fun _ => drawing')

/-- The second record is the first, with what is given in scopes under seeds of their own put in at
any places. -/
inductive Spliced : List Record → List Record → Prop where
  | nil : Spliced [] []
  | given {query : Query} (answer : query.Answer) {records records' : List Record}
      (h : Spliced records records') :
      Spliced (.given query answer :: records) (.given query answer :: records')
  | under (seed : Seed) {inner inner' records records' : List Record}
      (hinner : Spliced inner inner') (h : Spliced records records') :
      Spliced (.under seed inner :: records) (.under seed inner' :: records')
  | extra (seed : Seed) (inner : List Record) {records records' : List Record}
      (h : Spliced records records') : Spliced records (.under seed inner :: records')

theorem Spliced.append {records records' later later' : List Record}
    (h : Spliced records records') (hlater : Spliced later later') :
    Spliced (records ++ later) (records' ++ later') := by
  induction h with
  | nil => exact hlater
  | given answer _ ih => exact .given answer ih
  | under seed hinner _ _ ih => exact .under seed hinner ih
  | extra seed inner _ ih => exact .extra seed inner ih

/-- Two runs that differ in scopes under seeds of their own, and in nothing else. -/
structure Run.Agrees (ran ran' : Run V) : Prop where
  ending : ran'.1.ending = ran.1.ending
  generator : ran'.2 = ran.2
  records : Spliced ran.1.records ran'.1.records

theorem Run.Agrees.after {ran ran' : Run V} (h : ran.Agrees ran') {records records' : List Record}
    (hrecords : Spliced records records') : (ran.after records).Agrees (ran'.after records') :=
  ⟨h.ending, h.generator, hrecords.append h.records⟩

theorem Run.Agrees.goOn {ran ran' : Run V} (h : ran.Agrees ran')
    {next next' : V → Generator → Run V}
    (hnext : ∀ value g, (next value g).Agrees (next' value g)) :
    (ran.goOn next).Agrees (ran'.goOn next') := by
  unfold Run.goOn
  rw [h.ending, h.generator]
  cases ran.1.ending with
  | ok value => exact (hnext value ran.2).after h.records
  | error payload => exact h

theorem Run.Agrees.within {body body' : Generator → Run V} (h : ∀ g, (body g).Agrees (body' g))
    (seed : Option Seed) (g : Generator) :
    (Run.within seed (Generator.callSeeded seed g body)).Agrees
      (Run.within seed (Generator.callSeeded seed g body')) := by
  cases seed with
  | none => exact h g
  | some seed =>
    have hbody := h (Generator.ofSeed seed)
    exact ⟨hbody.ending, rfl, .under seed hbody.records .nil⟩

/-- Around the scopes that were put in, everything is as it was. -/
theorem run_inserts {drawing drawing' : Drawing V} (h : Inserts drawing drawing') (g : Generator) :
    (drawing.run g).Agrees (drawing'.run g) := by
  induction h generalizing g with
  | done value => exact ⟨rfl, rfl, .nil⟩
  | panic payload => exact ⟨rfl, rfl, .nil⟩
  | ask _ ih => exact (ih _ _).after (.given _ .nil)
  | reseed seed _ ih => exact ih _
  | scope seed _ _ ihbody ih => exact (Run.Agrees.within ihbody seed g).goOn ih
  | @attempt body body' next next' _ _ ihbody ih =>
    have hbody := ihbody g
    rw [run, run, hbody.ending, hbody.generator]
    exact (ih _ _).after hbody.records
  | @caught seed extra drawing drawing' _ ih =>
    have hextra : (attempt (.scope (some seed) extra .done) fun _ => drawing').run g =
        (drawing'.run g).after [.under seed (extra.run (Generator.ofSeed seed)).1.records] := by
      rw [run, run_under]
    rw [hextra]
    exact (ih g).after (.extra seed _ .nil)
  | @returned seed extra drawing drawing' value hreturned _ ih =>
    have hextra : (scope (some seed) extra fun _ => drawing').run g =
        (drawing'.run g).after [.under seed (extra.run (Generator.ofSeed seed)).1.records] := by
      rw [run, Run.goOn]
      simp only [Run.within, Generator.callSeeded_some_fst, hreturned]
      rfl
    rw [hextra]
    exact (ih g).after (.extra seed _ .nil)

/-- **Scopes are transparent.** A scope under a seed gives the generator back as it was, whether its
body returns or is broken off, and what the body is given is what it is given by the generator of
the seed; what comes after a scope goes on from there. A scope without a seed is its body, at any
depth. So if scopes under seeds are put in anywhere, or taken out, a computation ends as it did and
leaves the same generator, and all that it is given outside them is the same. -/
theorem scopes_are_transparent :
    (∀ (seed : Seed) (body : Drawing V) (g : Generator),
        let inner := (body.run (Generator.ofSeed seed)).1
        (scope (some seed) body .done).run g =
          (⟨[.under seed inner.records], inner.ending⟩, g)) ∧
      (∀ (seed : Option Seed) (body : Drawing V) (next : V → Drawing V) (g : Generator),
        (scope seed body next).run g =
          ((scope seed body .done).run g).goOn fun value => (next value).run) ∧
      (∀ (body : Drawing V) (next : V → Drawing V),
        (scope none body next).run = (body.bind next).run) ∧
      (∀ drawing : Drawing V, drawing.inlined.run = drawing.run) ∧
      ∀ (drawing drawing' : Drawing V), Inserts drawing drawing' → ∀ g : Generator,
        (drawing'.run g).1.ending = (drawing.run g).1.ending ∧
          (drawing'.run g).2 = (drawing.run g).2 ∧
          Spliced (drawing.run g).1.records (drawing'.run g).1.records := by
  refine ⟨run_under, ?_, ?_, run_inlined, ?_⟩
  · intro seed body next g
    rw [run_scope_done, run]
  · intro body next
    funext g
    rw [run_bind]
    rfl
  · intro drawing drawing' h g
    have hagrees := run_inserts h g
    exact ⟨hagrees.ending, hagrees.generator, hagrees.records⟩

/-- A draw is the same after a scope that is broken off in the middle of its own draws. -/
example (seed : Seed) (g : Generator) :
    let extra : Drawing UInt64 := .ask .word fun _ => .ask .word .panic
    let drawing : Drawing UInt64 := .ask .word .done
    ((attempt (.scope (some seed) extra .done) fun _ => drawing).run g).1.ending =
      .ok g.nextWord.1 :=
  rfl

end Drawing

end Testbed
