import Mathlib.Algebra.Order.Floor.Div
import Testbed.Proofs.Poll.Outcome

/-!
# A poll ends on time

A condition is evaluated in a world in which time passes. To evaluate it takes any time, to sleep
takes at least the time that was asked for, and nothing else is known of the clock: it may run on
in between, and what the condition answers may depend on all that happened. With a limit of time
and a pause that is not none, the poll ends all the same, after as many evaluations as there are
pauses in that time, and one.

The measure is the reading of the clock. Each pause brings it on by a whole interval or to the
deadline, so after `k` of them it shows `k` intervals, or the deadline.

## What is deliberately absent

There is no bound on when a poll ends. A condition may take for ever to evaluate, or a sleep to
come back; only what is asked for keeps within the deadline.

## Main definitions

* `Poll.Paced` — readings that keep up with the pauses
* `Poll.Setting` — a world with a clock and a condition
* `Poll.Setting.answers`, `Poll.Setting.readings` — what a poll is told there
* `Poll.Setting.Exact` — only sleeps take time, and no more than was asked for

## Main results

* `Poll.Paced.min_mul_le_reading` — how far the clock is after so many pauses
* `Poll.Setting.paced` — in every setting the clock keeps up with the pauses
* `Poll.within_idealSetting` — the poll that is run, in its setting
* `Poll.ends_by_deadline`
-/

namespace Testbed.Poll

/-! ### Settings -/

variable {W : Type}

/-- A world in which time passes, and a condition in it. The clock shows the time since the poll
was started. -/
structure Setting (W : Type) where
  elapsed : W → Duration
  evaluate : W → Bool × W
  sleep : Duration → W → W
  elapsed_evaluate : ∀ world, (elapsed world).nanos ≤ (elapsed (evaluate world).2).nanos
  elapsed_sleep : ∀ length world,
    (elapsed world).nanos + length.nanos ≤ (elapsed (sleep length world)).nanos

namespace Setting

variable (setting : Setting W) (bounds : Bounds) (start : W)

/-- The world at evaluation `done + 1`. After each one before there was the pause that the poll
asked for. -/
def worldAt : Nat → W
  | 0 => start
  | done + 1 =>
    let failed := (setting.evaluate (worldAt done)).2
    match decide bounds (done + 1) (setting.elapsed failed) with
    | .give _ => failed
    | .pause length => setting.sleep length failed

/-- What the condition answers. -/
def answers (done : Nat) : Bool :=
  (setting.evaluate (setting.worldAt bounds start done)).1

/-- What the clock shows after each evaluation. -/
def readings (done : Nat) : Duration :=
  setting.elapsed (setting.evaluate (setting.worldAt bounds start done)).2

theorem worldAt_of_pause {done : Nat} {length : Duration}
    (h : decide bounds (done + 1) (setting.readings bounds start done) = .pause length) :
    setting.worldAt bounds start (done + 1) =
      setting.sleep length (setting.evaluate (setting.worldAt bounds start done)).2 := by
  rw [readings] at h
  simp only [worldAt, h]

end Setting

variable {bounds : Bounds} {answers : Nat → Bool} {readings : Nat → Duration}
  {timeout : Duration} {done last : Nat}

/-! ### Readings that keep up with the pauses -/

/-- By the next reading at least the pause has passed. -/
def Paced (bounds : Bounds) (readings : Nat → Duration) : Prop :=
  ∀ done length, decide bounds (done + 1) (readings done) = .pause length →
    (readings done).nanos + length.nanos ≤ (readings (done + 1)).nanos

/-- **Each pause counts.** As long as a poll goes on, the clock shows as many intervals as there
were evaluations, or the deadline. -/
theorem Paced.min_mul_le_reading (h : Paced bounds readings)
    (htimeout : bounds.timeout = some timeout)
    (hgoing : ∀ earlier < done, ¬ Settled bounds answers readings earlier) :
    min (done * bounds.interval.nanos) timeout.nanos ≤ (readings done).nanos := by
  induction done with
  | zero => simp
  | succ done ih =>
    have hbefore := ih fun earlier hlt => hgoing earlier (by omega)
    have hpause := h done _ (decide_of_not_settled (hgoing done (by omega)))
    -- The pause is a whole interval, or all that is left of the time.
    have hlength : (bounds.pauseAt (readings done)).nanos =
        min bounds.interval.nanos (timeout.nanos - (readings done).nanos) := by
      rw [Bounds.pauseAt, htimeout]
    rw [Nat.succ_mul]
    omega

/-- After the pauses that fill the time, it is over. -/
theorem Paced.exists_first (h : Paced bounds readings) (htimeout : bounds.timeout = some timeout)
    (hinterval : 0 < bounds.interval.nanos) (answers : Nat → Bool) :
    ∃ last ≤ timeout.nanos ⌈/⌉ bounds.interval.nanos,
      IsLeast {done | Settled bounds answers readings done} last := by
  by_cases hearlier : ∃ earlier < timeout.nanos ⌈/⌉ bounds.interval.nanos,
      Settled bounds answers readings earlier
  · obtain ⟨earlier, hlt, hsettled⟩ := hearlier
    obtain ⟨last, hle, hfirst⟩ := exists_first_of_settled hsettled
    exact ⟨last, by omega, hfirst⟩
  · have hreading := h.min_mul_le_reading htimeout fun earlier hlt hsettled =>
      hearlier ⟨earlier, hlt, hsettled⟩
    have hfill : timeout.nanos ≤
        timeout.nanos ⌈/⌉ bounds.interval.nanos * bounds.interval.nanos := by
      simpa [Nat.mul_comm] using le_smul_ceilDiv (b := timeout.nanos) hinterval
    exact exists_first_of_settled (.inr (.inr ⟨timeout, htimeout, by omega⟩))

/-- In every setting the clock keeps up with the pauses. -/
theorem Setting.paced (setting : Setting W) (bounds : Bounds) (start : W) :
    Paced bounds (setting.readings bounds start) := by
  intro done length hpause
  calc (setting.readings bounds start done).nanos + length.nanos
      ≤ (setting.elapsed (setting.worldAt bounds start (done + 1))).nanos := by
        rw [worldAt_of_pause setting bounds start hpause]
        exact setting.elapsed_sleep _ _
    _ ≤ (setting.readings bounds start (done + 1)).nanos := setting.elapsed_evaluate _

/-! ### Exact sleeps -/

/-- To evaluate the condition takes no time, and a sleep takes what was asked for. -/
structure Setting.Exact (setting : Setting W) : Prop where
  evaluate : ∀ world, setting.elapsed (setting.evaluate world).2 = setting.elapsed world
  sleep : ∀ length world,
    setting.elapsed (setting.sleep length world) =
      ⟨(setting.elapsed world).nanos + length.nanos⟩

/-- The clock of an exact setting is the ideal one. -/
theorem Setting.Exact.readings_eq {setting : Setting W} (h : setting.Exact) {start : W}
    (hstart : setting.elapsed start = Duration.zero) (bounds : Bounds) :
    setting.readings bounds start = bounds.idealReadings := by
  funext done
  induction done with
  | zero => rw [readings, h.evaluate]; exact hstart
  | succ done ih =>
    rw [Bounds.idealReadings, ← ih, readings, h.evaluate, worldAt]
    show setting.elapsed (match decide bounds (done + 1) (setting.readings bounds start done) with
      | .give _ => _
      | .pause length => _) = _
    cases decide bounds (done + 1) (setting.readings bounds start done) with
    | give fault => rfl
    | pause length => exact h.sleep _ _

/-- The ideal clock keeps up with the pauses. -/
theorem Bounds.idealReadings_paced (bounds : Bounds) : Paced bounds bounds.idealReadings := by
  intro done length hpause
  rw [idealReadings_succ hpause]

/-- On the ideal clock no time passes after the deadline. -/
theorem Bounds.idealReadings_le (htimeout : bounds.timeout = some timeout) (done : Nat) :
    (bounds.idealReadings done).nanos ≤ timeout.nanos := by
  induction done with
  | zero => exact Nat.zero_le _
  | succ done ih =>
    cases hstep : decide bounds (done + 1) (bounds.idealReadings done) with
    | give fault => simpa [idealReadings, hstep] using ih
    | pause length =>
      rw [idealReadings_succ hstep]
      exact decide_pause_le htimeout hstep

/-- In an exact setting, the time is over exactly when it has passed. -/
theorem Setting.Exact.verdict_late {setting : Setting W} (h : setting.Exact) {start : W}
    (hstart : setting.elapsed start = Duration.zero) (htimeout : bounds.timeout = some timeout)
    {answer : Bool} {limit shown : Binary64} {attempts : Nat}
    (hlast : bounds.Verdict (last + 1) (setting.readings bounds start last) answer
      (.error (.pollTimeout limit shown attempts))) :
    setting.readings bounds start (attempts - 1) = timeout ∧ attempts = last + 1 ∧
      limit = timeout.seconds ∧ shown = timeout.seconds := by
  cases hlast with
  | @late timeout' _ htimeout' hover =>
    obtain rfl : timeout' = timeout := Option.some.inj (htimeout'.symm.trans htimeout)
    have hreading : setting.readings bounds start last = timeout' := by
      rw [h.readings_eq hstart] at hover ⊢
      exact congrArg Duration.mk
        (Nat.le_antisymm (Bounds.idealReadings_le htimeout last) hover)
    exact ⟨hreading, rfl, rfl, congrArg Duration.seconds hreading⟩

/-- A condition that answers what it is told to, evaluated without taking time, and exact sleeps.
The world is the number of evaluations and the time. -/
def idealSetting (answers : Nat → Bool) : Setting (Nat × Duration) where
  elapsed := Prod.snd
  evaluate world := (answers world.1, world.1 + 1, world.2)
  sleep length world := (world.1, ⟨world.2.nanos + length.nanos⟩)
  elapsed_evaluate _ := le_rfl
  elapsed_sleep _ _ := le_rfl

theorem idealSetting_exact (answers : Nat → Bool) : (idealSetting answers).Exact :=
  ⟨fun _ => rfl, fun _ _ => rfl⟩

/-- Each evaluation gets its own answer. -/
theorem answers_idealSetting (answers : Nat → Bool) (bounds : Bounds) :
    (idealSetting answers).answers bounds (0, Duration.zero) = answers := by
  have hcount (done : Nat) :
      ((idealSetting answers).worldAt bounds (0, Duration.zero) done).1 = done := by
    induction done with
    | zero => rfl
    | succ done ih =>
      rw [Setting.worldAt]
      split <;> exact congrArg (· + 1) ih
  funext done
  exact congrArg answers (hcount done)

/-! ### The deadline -/

/-- A pause is asked for before the deadline, and ends by then. -/
theorem pauseAt_within (htimeout : bounds.timeout = some timeout)
    (hgoing : ¬ Settled bounds answers readings done) :
    (readings done).nanos < timeout.nanos ∧
      (readings done).nanos + (bounds.pauseAt (readings done)).nanos ≤ timeout.nanos := by
  refine ⟨?_, decide_pause_le htimeout (decide_of_not_settled hgoing)⟩
  exact Nat.lt_of_not_le fun hover => hgoing (.inr (.inr ⟨timeout, htimeout, hover⟩))

/-- On the ideal clock a poll that has a budget or a pause ends before its evaluations are used
up. -/
theorem exists_first_lt_fuel (hbounded : ¬ bounds.Unbounded)
    (h : bounds.attempts ≠ none ∨ 0 < bounds.interval.nanos) (answers : Nat → Bool) :
    ∃ last < bounds.fuel,
      IsLeast {done | Settled bounds answers bounds.idealReadings done} last := by
  cases hattempts : bounds.attempts with
  | some most =>
    obtain ⟨last, hlt, hfirst⟩ := exists_first_of_spent hattempts answers bounds.idealReadings
    have hfuel : bounds.fuel = most + 1 := by rw [Bounds.fuel, hattempts]
    exact ⟨last, by omega, hfirst⟩
  | none =>
    have hinterval : 0 < bounds.interval.nanos := h.resolve_left fun hne => hne hattempts
    obtain ⟨timeout, htimeout⟩ : ∃ timeout, bounds.timeout = some timeout :=
      Option.ne_none_iff_exists'.mp fun hnone => hbounded ⟨hattempts, hnone⟩
    obtain ⟨last, hle, hfirst⟩ :=
      bounds.idealReadings_paced.exists_first htimeout hinterval answers
    have hceil : timeout.nanos ⌈/⌉ bounds.interval.nanos ≤
        timeout.nanos / bounds.interval.nanos + 1 := by
      rw [ceilDiv_le_iff_le_mul hinterval]
      exact (Nat.lt_mul_div_succ _ hinterval).le
    have hfuel : bounds.fuel = timeout.nanos / bounds.interval.nanos + 2 := by
      rw [Bounds.fuel, hattempts, htimeout]
      dsimp only
      rw [max_eq_left hinterval]
    exact ⟨last, by omega, hfirst⟩

/-- The poll that is run is the poll in the ideal setting, where it has a budget or a pause. -/
theorem within_idealSetting (h : bounds.attempts ≠ none ∨ 0 < bounds.interval.nanos)
    (answers : Nat → Bool) :
    within bounds ((idealSetting answers).answers bounds (0, Duration.zero))
        ((idealSetting answers).readings bounds (0, Duration.zero)) bounds.fuel =
      some (run bounds answers) := by
  rw [answers_idealSetting, (idealSetting_exact answers).readings_eq rfl]
  suffices hends : ∃ ending,
      within bounds answers bounds.idealReadings bounds.fuel = some ending by
    obtain ⟨ending, hending⟩ := hends
    rw [hending, run_eq_of_within hending]
  by_cases hbounded : bounds.Unbounded
  · exact ⟨_, if_pos hbounded⟩
  · obtain ⟨last, hlt, hfirst⟩ := exists_first_lt_fuel hbounded h answers
    obtain ⟨outcome, hlast⟩ := Settled.exists_verdict hfirst.1
    exact ⟨_, (within_of_first hbounded hfirst hlast _).trans (if_pos hlt)⟩

/-- **A poll ends by its deadline.** With a limit of time and a pause that is not none, with or
without a budget, in every setting: the poll ends after at most as many evaluations as there are
pauses in that time, and one more; each pause is slept, is asked for while time is left, and would
end by the deadline. Where only sleeps take time and take no more than was asked for, the time is
over exactly at the deadline. -/
theorem ends_by_deadline (setting : Setting W) (start : W) (bounds : Bounds) {timeout : Duration}
    (htimeout : bounds.timeout = some timeout) (hinterval : 0 < bounds.interval.nanos) :
    let answers := setting.answers bounds start
    let readings := setting.readings bounds start
    ∃ ending, ending.calls ≤ timeout.nanos ⌈/⌉ bounds.interval.nanos + 1 ∧
      (∀ fuel, timeout.nanos ⌈/⌉ bounds.interval.nanos + 1 ≤ fuel →
        within bounds answers readings fuel = some ending) ∧
      ending.pauses.length + 1 = ending.calls ∧
      (∀ done length, ending.pauses[done]? = some length →
        setting.worldAt bounds start (done + 1) =
            setting.sleep length (setting.evaluate (setting.worldAt bounds start done)).2 ∧
          (readings done).nanos < timeout.nanos ∧
          (readings done).nanos + length.nanos ≤ timeout.nanos) ∧
      (setting.Exact → setting.elapsed start = Duration.zero → ∀ limit shown attempts,
        ending.outcome = .error (.pollTimeout limit shown attempts) →
          readings (attempts - 1) = timeout ∧ attempts = ending.calls ∧
            limit = timeout.seconds ∧ shown = timeout.seconds) := by
  intro answers readings
  have hbounded : ¬ bounds.Unbounded := by simp [Bounds.Unbounded, htimeout]
  have hpaced : Paced bounds readings := setting.paced bounds start
  obtain ⟨last, hle, hfirst⟩ := hpaced.exists_first htimeout hinterval answers
  obtain ⟨outcome, hlast⟩ := Settled.exists_verdict hfirst.1
  refine ⟨⟨last + 1, (List.range last).map fun earlier => bounds.pauseAt (readings earlier),
    outcome⟩, Nat.succ_le_succ hle, ?_, by simp, ?_, ?_⟩
  · intro fuel hfuel
    rw [within_of_first hbounded hfirst hlast, if_pos (by omega)]
  · intro done length hlength
    rw [List.getElem?_map, Option.map_eq_some_iff] at hlength
    obtain ⟨earlier, hearlier, rfl⟩ := hlength
    obtain ⟨hlt, rfl⟩ : done < last ∧ done = earlier := by
      simpa [List.getElem?_eq_some_iff] using hearlier
    have hgoing : ¬ Settled bounds answers readings done := fun hsettled =>
      absurd (hfirst.2 hsettled) (by omega)
    exact ⟨setting.worldAt_of_pause bounds start (decide_of_not_settled hgoing),
      pauseAt_within htimeout hgoing⟩
  · intro hexact hstart limit shown attempts houtcome
    subst houtcome
    exact hexact.verdict_late hstart htimeout hlast

/-- Two and a half intervals, and no budget. -/
def sampleBounds : Bounds := ⟨⟨100⟩, none, some ⟨250⟩⟩

/-- A condition that never holds is evaluated four times. The last pause is half an interval, and
the poll ends at the deadline. -/
theorem sample_ends_by_deadline :
    let setting := idealSetting fun _ => false
    let readings := setting.readings sampleBounds (0, Duration.zero)
    sampleBounds.timeout = some ⟨250⟩ ∧ 0 < sampleBounds.interval.nanos ∧ ∃ ending,
      within sampleBounds (setting.answers sampleBounds (0, Duration.zero)) readings 4 =
          some ending ∧
        ending.calls = 4 ∧ ending.pauses = [⟨100⟩, ⟨100⟩, ⟨50⟩] ∧ readings 3 = ⟨250⟩ := by
  refine ⟨rfl, by decide, ?_⟩
  obtain ⟨ending, -, hends, -⟩ := ends_by_deadline (idealSetting fun _ => false)
    (0, Duration.zero) sampleBounds rfl (by decide)
  have hwithin := hends 4 (by decide)
  exact ⟨ending, hwithin, by cases hwithin; rfl, by cases hwithin; rfl, rfl⟩

end Testbed.Poll
