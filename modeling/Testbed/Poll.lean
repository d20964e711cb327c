import Testbed.Fault

/-!
# Polling

A condition is evaluated again and again, with a pause in between, until it holds or a bound is
reached: a number of evaluations, or a span of time since the start. A condition that holds wins
over both bounds, and of the bounds the number of evaluations is looked at first. The last pause
before the end of the time is shortened to end with it.

What the condition answers and what the clock shows are streams: `answers k` is the answer of
evaluation `k + 1`, and `readings k` the time since the start when that evaluation has failed.

A run on a clock on which only pauses take time adds the pauses up as it goes, and takes one step
an evaluation. It is the same poll: its clock shows `Bounds.idealReadings`.

## Main definitions

* `Poll.Bounds` — how long to poll
* `Poll.decide` — what follows an evaluation that failed
* `Poll.within` — the poll, if it ends within so many evaluations
* `Poll.Bounds.idealReadings` — a clock on which only pauses take time
* `Poll.run` — the poll on that clock

## Main results

* `Poll.decide_pause_le` — no pause ends after the time is over
* `Poll.run_eq_of_within` — a run is the poll with the readings of the ideal clock
-/

namespace Testbed.Poll

/-- How long to poll. -/
structure Bounds where
  interval : Duration
  /-- The most evaluations. -/
  attempts : Option Nat
  /-- The most time. -/
  timeout : Option Duration
  deriving DecidableEq, Repr

/-- What follows an evaluation that failed. -/
inductive Step where
  | give (fault : Fault)
  | pause (length : Duration)

/-- What follows failed evaluation number `attempt` when `elapsed` has passed. -/
def decide (bounds : Bounds) (attempt : Nat) (elapsed : Duration) : Step :=
  if bounds.attempts.any (· ≤ attempt) then
    .give (.pollAttemptsExhausted attempt)
  else
    match bounds.timeout with
    | none => .pause bounds.interval
    | some timeout =>
      if timeout.nanos ≤ elapsed.nanos then
        .give (.pollTimeout timeout.seconds elapsed.seconds attempt)
      else .pause ⟨min bounds.interval.nanos (timeout.nanos - elapsed.nanos)⟩

/-- How a poll ended: how often the condition was evaluated, the pauses, and the outcome. -/
structure Ending where
  calls : Nat
  pauses : List Duration
  outcome : Except Fault Unit

/-- The poll from evaluation `done + 1` on, if it ends within so many more evaluations. -/
def continue? (bounds : Bounds) (answers : Nat → Bool) (readings : Nat → Duration) :
    Nat → Nat → Option Ending
  | 0, _ => none
  | fuel + 1, done =>
    if answers done then some ⟨done + 1, [], .ok ()⟩
    else
      match decide bounds (done + 1) (readings done) with
      | .give fault => some ⟨done + 1, [], .error fault⟩
      | .pause length =>
        (continue? bounds answers readings fuel (done + 1)).map fun ending =>
          { ending with pauses := length :: ending.pauses }

/-- The poll, if it ends within so many evaluations. Without a bound it does not start. -/
def within (bounds : Bounds) (answers : Nat → Bool) (readings : Nat → Duration) (fuel : Nat) :
    Option Ending :=
  if bounds.attempts = none ∧ bounds.timeout = none then some ⟨0, [], .error .pollUnbounded⟩
  else continue? bounds answers readings fuel 0

/-! ### A clock on which only pauses take time -/

/-- The reading after a failed evaluation, when only pauses take time. -/
def Bounds.idealReadings (bounds : Bounds) : Nat → Duration
  | 0 => Duration.zero
  | k + 1 =>
    let before := bounds.idealReadings k
    match decide bounds (k + 1) before with
    | .give _ => before
    | .pause length => ⟨before.nanos + length.nanos⟩

/-- Enough evaluations for every poll that has bounds and a pause. -/
def Bounds.fuel (bounds : Bounds) : Nat :=
  match bounds.attempts, bounds.timeout with
  | some most, _ => most + 1
  | none, some timeout => timeout.nanos / max bounds.interval.nanos 1 + 2
  | none, none => 0

/-- The poll from evaluation `done + 1` on, when `elapsed` has passed and the pauses so far, the
last one first, are `paused`. It counts as over when its evaluations are used up. -/
def advance (bounds : Bounds) (answers : Nat → Bool) :
    Nat → Nat → Duration → List Duration → Ending
  | 0, done, _, paused => ⟨done, paused.reverse, .error (.pollAttemptsExhausted done)⟩
  | fuel + 1, done, elapsed, paused =>
    if answers done then ⟨done + 1, paused.reverse, .ok ()⟩
    else
      match decide bounds (done + 1) elapsed with
      | .give fault => ⟨done + 1, paused.reverse, .error fault⟩
      | .pause length =>
        advance bounds answers fuel (done + 1) ⟨elapsed.nanos + length.nanos⟩ (length :: paused)

/-- The poll on a clock on which only pauses take time. A poll without a pause, which could go
on for ever at the same moment, counts as over when its evaluations are used up. -/
def run (bounds : Bounds) (answers : Nat → Bool) : Ending :=
  if bounds.attempts = none ∧ bounds.timeout = none then ⟨0, [], .error .pollUnbounded⟩
  else advance bounds answers bounds.fuel 0 Duration.zero []

theorem decide_pause_le {bounds : Bounds} {attempt : Nat} {elapsed timeout length : Duration}
    (ht : bounds.timeout = some timeout) (h : decide bounds attempt elapsed = .pause length) :
    elapsed.nanos + length.nanos ≤ timeout.nanos := by
  unfold decide at h
  split at h
  · cases h
  · simp only [ht] at h
    split at h
    · cases h
    · cases h
      simp only
      omega

/-- The clock moves on by each pause. -/
theorem Bounds.idealReadings_succ {bounds : Bounds} {done : Nat} {length : Duration}
    (h : decide bounds (done + 1) (bounds.idealReadings done) = .pause length) :
    bounds.idealReadings (done + 1) = ⟨(bounds.idealReadings done).nanos + length.nanos⟩ := by
  simp [Bounds.idealReadings, h]

/-- Adding the pauses up shows the readings of the ideal clock. -/
theorem advance_eq_of_continue? {bounds : Bounds} {answers : Nat → Bool} {ending : Ending}
    (fuel done : Nat) (paused : List Duration)
    (h : continue? bounds answers bounds.idealReadings fuel done = some ending) :
    advance bounds answers fuel done (bounds.idealReadings done) paused =
      { ending with pauses := paused.reverse ++ ending.pauses } := by
  induction fuel generalizing done paused ending with
  | zero => cases h
  | succ fuel ih =>
    unfold continue? at h
    unfold advance
    split at h
    · next holds => cases h; simp [holds]
    · next fails =>
      simp only [fails, Bool.false_eq_true, if_false]
      cases step : decide bounds (done + 1) (bounds.idealReadings done) with
      | give fault =>
        simp only [step, Option.some.injEq] at h
        subst h
        simp
      | pause length =>
        simp only [step, Option.map_eq_some_iff] at h
        obtain ⟨later, hLater, rfl⟩ := h
        simp only [← Bounds.idealReadings_succ step, ih (done + 1) (length :: paused) hLater]
        simp

theorem run_eq_of_within {bounds : Bounds} {answers : Nat → Bool} {ending : Ending}
    (h : within bounds answers bounds.idealReadings bounds.fuel = some ending) :
    run bounds answers = ending := by
  unfold within at h
  unfold run
  split at h
  · next unbounded => cases h; simp [unbounded]
  · next bounded =>
    rw [if_neg bounded]
    simpa [Bounds.idealReadings] using advance_eq_of_continue? bounds.fuel 0 [] h

end Testbed.Poll
