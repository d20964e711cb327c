import Mathlib.Order.Bounds.Basic
import Mathlib.Order.Nat
import Testbed.Poll

/-!
# How a poll ends

A poll ends with the first evaluation after which it cannot go on: the condition holds, the budget
is spent, or the time is over. Which of the three it is, looked at in this order, is the outcome.

## What is deliberately absent

Nothing is asked of the readings. They may stand still, or even go back: the poll ends at the first
evaluation that settles it, whatever comes later.

## Main definitions

* `Poll.Bounds.Spent`, `Poll.Bounds.Over` — a bound is reached
* `Poll.Settled` — the poll does not go on after an evaluation
* `Poll.Bounds.Verdict` — what the last evaluation comes to

## Main results

* `Poll.continue?_of_first` — the poll in closed form, from any evaluation on
* `Poll.exists_first_of_spent` — a budget is enough for an end
* `Poll.ends_when_first_settled`
-/

namespace Testbed.Poll

variable {bounds : Bounds} {answers : Nat → Bool} {readings : Nat → Duration}
  {attempt done last : Nat} {elapsed timeout : Duration} {outcome : Except Fault Unit}

/-! ### Bounds -/

/-- Neither evaluations nor time are bounded. -/
def Bounds.Unbounded (bounds : Bounds) : Prop :=
  bounds.attempts = none ∧ bounds.timeout = none

/-- With so many evaluations the budget is used up. -/
def Bounds.Spent (bounds : Bounds) (attempt : Nat) : Prop :=
  ∃ most, bounds.attempts = some most ∧ most ≤ attempt

/-- When so much time has passed, it is over. -/
def Bounds.Over (bounds : Bounds) (elapsed : Duration) : Prop :=
  ∃ timeout, bounds.timeout = some timeout ∧ timeout.nanos ≤ elapsed.nanos

/-- The pause of a poll that goes on when so much time has passed: no longer than what is left. -/
def Bounds.pauseAt (bounds : Bounds) (elapsed : Duration) : Duration :=
  match bounds.timeout with
  | none => bounds.interval
  | some timeout => ⟨min bounds.interval.nanos (timeout.nanos - elapsed.nanos)⟩

theorem Bounds.any_attempts_iff :
    bounds.attempts.any (· ≤ attempt) = true ↔ bounds.Spent attempt := by
  simp [Bounds.Spent, Option.any_eq_true]

theorem decide_of_spent (hspent : bounds.Spent attempt) (elapsed : Duration) :
    decide bounds attempt elapsed = .give (.pollAttemptsExhausted attempt) := by
  rw [decide, if_pos (Bounds.any_attempts_iff.mpr hspent)]

theorem decide_of_over (hspent : ¬ bounds.Spent attempt) (htimeout : bounds.timeout = some timeout)
    (hover : timeout.nanos ≤ elapsed.nanos) :
    decide bounds attempt elapsed =
      .give (.pollTimeout timeout.seconds elapsed.seconds attempt) := by
  rw [decide, if_neg (Bounds.any_attempts_iff.not.mpr hspent), htimeout]
  exact if_pos hover

theorem decide_of_going (hspent : ¬ bounds.Spent attempt) (hover : ¬ bounds.Over elapsed) :
    decide bounds attempt elapsed = .pause (bounds.pauseAt elapsed) := by
  rw [decide, if_neg (Bounds.any_attempts_iff.not.mpr hspent), Bounds.pauseAt]
  cases htimeout : bounds.timeout with
  | none => rfl
  | some timeout => exact if_neg fun hle => hover ⟨timeout, htimeout, hle⟩

/-! ### The last evaluation -/

/-- The poll does not go on after evaluation `done + 1`. -/
def Settled (bounds : Bounds) (answers : Nat → Bool) (readings : Nat → Duration) (done : Nat) :
    Prop :=
  answers done = true ∨ bounds.Spent (done + 1) ∨ bounds.Over (readings done)

/-- What evaluation number `attempt` comes to as the last one, when it was answered and so much
time had passed. A condition that holds wins over both bounds, and the budget over the time. -/
inductive Bounds.Verdict (bounds : Bounds) (attempt : Nat) (elapsed : Duration) :
    Bool → Except Fault Unit → Prop where
  | met : Verdict bounds attempt elapsed true (.ok ())
  | spent (hspent : bounds.Spent attempt) :
    Verdict bounds attempt elapsed false (.error (.pollAttemptsExhausted attempt))
  | late {timeout : Duration} (hspent : ¬ bounds.Spent attempt)
      (htimeout : bounds.timeout = some timeout) (hover : timeout.nanos ≤ elapsed.nanos) :
    Verdict bounds attempt elapsed false
      (.error (.pollTimeout timeout.seconds elapsed.seconds attempt))

theorem Settled.exists_verdict (h : Settled bounds answers readings done) :
    ∃ outcome, bounds.Verdict (done + 1) (readings done) (answers done) outcome := by
  cases hanswer : answers done with
  | true => exact ⟨_, .met⟩
  | false =>
    by_cases hspent : bounds.Spent (done + 1)
    · exact ⟨_, .spent hspent⟩
    · have hover : bounds.Over (readings done) := by simpa [Settled, hanswer, hspent] using h
      obtain ⟨timeout, htimeout, hle⟩ := hover
      exact ⟨_, .late hspent htimeout hle⟩

theorem continue?_of_verdict
    (h : bounds.Verdict (done + 1) (readings done) (answers done) outcome) (fuel : Nat) :
    continue? bounds answers readings (fuel + 1) done = some ⟨done + 1, [], outcome⟩ := by
  rw [continue?]
  generalize answers done = answer at h
  cases h with
  | met => rfl
  | spent hspent => rw [decide_of_spent hspent]; rfl
  | late hspent htimeout hover => rw [decide_of_over hspent htimeout hover]; rfl

theorem decide_of_not_settled (h : ¬ Settled bounds answers readings done) :
    decide bounds (done + 1) (readings done) = .pause (bounds.pauseAt (readings done)) :=
  decide_of_going (fun hspent => h (.inr (.inl hspent))) fun hover => h (.inr (.inr hover))

theorem continue?_of_not_settled (h : ¬ Settled bounds answers readings done) (fuel : Nat) :
    continue? bounds answers readings (fuel + 1) done =
      (continue? bounds answers readings fuel (done + 1)).map fun ending =>
        { ending with pauses := bounds.pauseAt (readings done) :: ending.pauses } := by
  have hanswer : answers done = false := Bool.eq_false_iff.mpr fun hanswer => h (.inl hanswer)
  rw [continue?, hanswer, decide_of_not_settled h]
  rfl

/-! ### The whole poll -/

/-- From any evaluation on, the poll goes to the first one that settles it, with a pause after
each one before. -/
theorem continue?_of_first (steps : Nat) {fuel done : Nat}
    (hbefore : ∀ earlier, done ≤ earlier → earlier < done + steps →
      ¬ Settled bounds answers readings earlier)
    (hlast : bounds.Verdict (done + steps + 1) (readings (done + steps)) (answers (done + steps))
      outcome) :
    continue? bounds answers readings fuel done =
      if steps < fuel then
        some ⟨done + steps + 1,
          (List.range' done steps).map fun earlier => bounds.pauseAt (readings earlier), outcome⟩
      else none := by
  induction steps generalizing fuel done with
  | zero =>
    cases fuel with
    | zero => rfl
    | succ fuel => simpa using continue?_of_verdict hlast fuel
  | succ steps ih =>
    cases fuel with
    | zero => rfl
    | succ fuel =>
      have hshift : done + (steps + 1) = done + 1 + steps := by omega
      rw [hshift] at hbefore hlast ⊢
      rw [continue?_of_not_settled (hbefore done le_rfl (by omega)),
        ih (fun earlier hle hlt => hbefore earlier (by omega) hlt) hlast]
      by_cases hfuel : steps < fuel <;> simp [hfuel, List.range'_succ]

theorem continue?_of_never (h : ∀ done, ¬ Settled bounds answers readings done) (fuel : Nat) :
    continue? bounds answers readings fuel done = none := by
  induction fuel generalizing done with
  | zero => rfl
  | succ fuel ih => rw [continue?_of_not_settled (h done), ih, Option.map_none]

theorem within_of_bounded (h : ¬ bounds.Unbounded) (fuel : Nat) :
    within bounds answers readings fuel = continue? bounds answers readings fuel 0 :=
  if_neg h

/-- The poll in closed form. -/
theorem within_of_first (hbounded : ¬ bounds.Unbounded)
    (hfirst : IsLeast {done | Settled bounds answers readings done} last)
    (hlast : bounds.Verdict (last + 1) (readings last) (answers last) outcome) (fuel : Nat) :
    within bounds answers readings fuel =
      if last < fuel then
        some ⟨last + 1, (List.range last).map fun earlier => bounds.pauseAt (readings earlier),
          outcome⟩
      else none := by
  have hbefore : ∀ earlier, 0 ≤ earlier → earlier < 0 + last →
      ¬ Settled bounds answers readings earlier := by
    intro earlier _ hlt hsettled
    exact absurd (hfirst.2 hsettled) (by omega)
  rw [← Nat.zero_add last] at hlast
  rw [within_of_bounded hbounded, continue?_of_first last hbefore hlast, Nat.zero_add,
    List.range_eq_range']

theorem exists_first_of_settled {late : Nat} (h : Settled bounds answers readings late) :
    ∃ last ≤ late, IsLeast {done | Settled bounds answers readings done} last := by
  classical
  have hex : ∃ done, Settled bounds answers readings done := ⟨late, h⟩
  exact ⟨Nat.find hex, Nat.find_min' hex h, Nat.find_spec hex, fun _ => Nat.find_min' hex⟩

/-- A budget is used up after its last evaluation, or the only one if it has none. -/
theorem exists_first_of_spent {most : Nat} (h : bounds.attempts = some most)
    (answers : Nat → Bool) (readings : Nat → Duration) :
    ∃ last < max most 1, IsLeast {done | Settled bounds answers readings done} last := by
  have hsettled : Settled bounds answers readings (max most 1 - 1) :=
    .inr (.inl ⟨most, h, by omega⟩)
  obtain ⟨last, hle, hfirst⟩ := exists_first_of_settled hsettled
  exact ⟨last, by omega, hfirst⟩

/-- **A poll ends when it is first settled.** Without a bound the condition is never evaluated.
With one, the condition is evaluated up to the first evaluation at which it holds, the budget is
spent, or the time is over, and the outcome is that evaluation's verdict; if there is none, the
poll does not end. With a budget it ends, and with no more evaluations than that, or with one. -/
theorem ends_when_first_settled (bounds : Bounds) (answers : Nat → Bool)
    (readings : Nat → Duration) :
    (bounds.Unbounded → ∀ fuel,
      within bounds answers readings fuel = some ⟨0, [], .error .pollUnbounded⟩) ∧
    (¬ bounds.Unbounded →
      (∀ last, IsLeast {done | Settled bounds answers readings done} last →
        ∃ outcome, bounds.Verdict (last + 1) (readings last) (answers last) outcome ∧ ∀ fuel,
          within bounds answers readings fuel =
            if last < fuel then
              some ⟨last + 1,
                (List.range last).map fun earlier => bounds.pauseAt (readings earlier), outcome⟩
            else none) ∧
      ((∀ done, ¬ Settled bounds answers readings done) →
        ∀ fuel, within bounds answers readings fuel = none)) ∧
    ∀ most, bounds.attempts = some most → ∃ ending, ending.calls ≤ max most 1 ∧
      ∀ fuel, max most 1 ≤ fuel → within bounds answers readings fuel = some ending := by
  refine ⟨?_, ?_, ?_⟩
  · intro hunbounded fuel
    exact if_pos hunbounded
  · intro hbounded
    refine ⟨?_, ?_⟩
    · intro last hfirst
      obtain ⟨outcome, hlast⟩ := Settled.exists_verdict hfirst.1
      exact ⟨outcome, hlast, within_of_first hbounded hfirst hlast⟩
    · intro hnever fuel
      rw [within_of_bounded hbounded, continue?_of_never hnever]
  · intro most hmost
    have hbounded : ¬ bounds.Unbounded := by simp [Bounds.Unbounded, hmost]
    obtain ⟨last, hlt, hfirst⟩ := exists_first_of_spent hmost answers readings
    obtain ⟨outcome, hlast⟩ := Settled.exists_verdict hfirst.1
    refine ⟨⟨last + 1, (List.range last).map fun earlier => bounds.pauseAt (readings earlier),
      outcome⟩, hlt, ?_⟩
    intro fuel hfuel
    rw [within_of_first hbounded hfirst hlast, if_pos (by omega)]

/-- A condition that holds counts, also when the budget is none and the time is over. -/
example : within ⟨⟨7⟩, some 0, some ⟨5⟩⟩ (fun _ => true) (fun _ => ⟨5⟩) 1 = some ⟨1, [], .ok ()⟩ :=
  rfl

end Testbed.Poll
