import Testbed.Proofs.Campaign.Upkeep
import Testbed.Proofs.Campaign.Watch
import Testbed.Proofs.Reconciler.Cleanup

/-!
# No testset runs on a wrong or stopped cluster

A cluster comes to a testset by being handed on, by being mutated, or by being started; and
before that, any number of testsets and failed reconciliations may have done to it what they
liked. Still, when setup is called, or a dry run begins, every requirement of the testset holds
of that very cluster, the campaign has never stopped it, and the hook is armed for it. And when
no cluster can be had, no body of the testset is called.

What holds of the requirements and the hook is a matter of one reconciliation. That the cluster
was never stopped is a matter of the whole campaign, and the invariant is about the ledger: the
number of the held cluster has been given, and there is no entry of its end.

## What is deliberately absent

Nothing is assumed of bodies and mutations, not even that they leave the index of a cluster as it
is: a reconciliation that succeeds arms the hook anew. That they do not stop clusters on their
own is not assumed either, but neither would it be noticed.

## Main definitions

* `Ledger.Alive` — a cluster was numbered, and not stopped
* `Campaign.Sound` — the invariant of a watched campaign

## Main results

* `Campaign.step_sound`, `Campaign.afterWatched_sound` — it is kept
* `Campaign.runOn_notes` — setup comes first, on the cluster that is handed out
* `Campaign.setup_on_sound_cluster`
-/

namespace Testbed

variable {T C W : Type}

/-! ### The ledger of a live cluster -/

namespace Ledger

/-- Only clusters that were numbered have been stopped. -/
def Current (ledger : Ledger W) : Prop :=
  ∀ id, .stopped id ∈ ledger.entries → id < ledger.next

/-- The cluster was numbered, and has not been stopped. -/
def Alive (tracked : Tracked C) (ledger : Ledger W) : Prop :=
  Current ledger ∧ tracked.id < ledger.next ∧ .stopped tracked.id ∉ ledger.entries

theorem Alive.stopped {tracked : Tracked C} {ledger : Ledger W} (h : Alive tracked ledger)
    (world : W) : Current (ledger.enter world (.stopped tracked.id)) := by
  intro id hmem
  rcases List.mem_append.mp hmem with hmem | hmem
  · exact h.1 id hmem
  · cases List.mem_singleton.mp hmem
    exact h.2.1

theorem Current.requested {ledger : Ledger W} (h : Current ledger) (world : W) :
    Current (ledger.enter world .requested) := by
  intro id hmem
  rcases List.mem_append.mp hmem with hmem | hmem
  · exact h id hmem
  · cases List.mem_singleton.mp hmem

theorem Current.acquired {ledger : Ledger W} (h : Current ledger) (cluster : C) :
    Alive (ledger.acquire cluster).1 (ledger.acquire cluster).2 := by
  have hold : ∀ id, .stopped id ∈ (ledger.acquire cluster).2.entries → id < ledger.next := by
    intro id hmem
    rcases List.mem_append.mp hmem with hmem | hmem
    · exact h id hmem
    · cases List.mem_singleton.mp hmem
  refine ⟨?_, Nat.lt_succ_self _, ?_⟩
  · intro id hmem
    exact Nat.lt_succ_of_lt (hold id hmem)
  · intro hmem
    exact absurd (hold _ hmem) (Nat.lt_irrefl _)

end Ledger

/-! ### The invariant -/

namespace Campaign

/-- The cluster is alive, and nothing was noted since. -/
def Quiet (notes : List (Sighting C W)) (tracked : Tracked C) (watched : Watched C W) : Prop :=
  watched.notes = notes ∧ Ledger.Alive tracked watched.world

/-- No cluster is held, and nothing was noted since. -/
def Idle (notes : List (Sighting C W)) (watched : Watched C W) : Prop :=
  watched.notes = notes ∧ Ledger.Current watched.world

theorem stopped_watched (platform : Platform C W) (notes : List (Sighting C W)) :
    Reconciler.StoppedInto platform.watched (Quiet notes) (Idle notes) := by
  intro tracked watched h
  exact ⟨h.1, h.2.stopped _⟩

/-- Whatever its requirements, a testset leaves clusters alive in the reconciler's custody. -/
theorem custody_watched (platform : Platform C W) (launcher : Launcher C W)
    (suite : Testset T C W) (notes : List (Sighting C W)) :
    Reconciler.Custody platform.watched
      (RequirementSet.toRequirements ⟨suite.watched.requirements, launcher.watched⟩)
      (Quiet notes) (Idle notes) := by
  refine Reconciler.custody_of_launcher ?_ ?_ ?_ (stopped_watched platform notes)
  · intro options watched h
    show Reconciler.Leaves _ _ (launcher.tracked.noted options watched)
    rw [Launcher.noted, Launcher.tracked]
    rcases launcher options watched.world.world with ⟨_ | cluster, world, printed⟩
    · exact ⟨h.1, h.2.requested world⟩
    · exact ⟨h.1, (h.2.requested world).acquired cluster⟩
  · intro requirement hmem tracked watched h
    obtain ⟨middle, hmiddle, rfl⟩ := List.mem_map.mp hmem
    obtain ⟨plain, -, rfl⟩ := List.mem_map.mp hmiddle
    exact h
  · intro tracked watched h
    exact ⟨h.1, h.2.1⟩

/-- The settings are as at the start, and the held cluster is alive. -/
structure Sound (config : Config) (launcher : Launcher C W)
    (state : Campaign (Tracked C) (Watched C W) × Watched C W) : Prop where
  config : state.1.config = config
  launcher : state.1.launcher = launcher.watched
  keeps : state.1.reconciler.Keeps (Quiet state.2.notes) (Idle state.2.notes) state.2

variable {platform : Platform C W} {config : Config} {launcher : Launcher C W}
  {suite : Testset T C W} {state : Campaign (Tracked C) (Watched C W) × Watched C W}

/-- Asking for a cluster calls no body, and leaves the held cluster alive. -/
theorem Sound.acquire (h : Sound config launcher state) (platform : Platform C W)
    (suite : Testset T C W) :
    let got := acquire platform.watched state.1 suite.watched state.2
    got.reconciler.Keeps (Quiet state.2.notes) (Idle state.2.notes) got.world := by
  have hcustody := custody_watched platform launcher suite state.2.notes
  rw [← h.launcher] at hcustody
  exact Reconciler.reconcile_keeps hcustody h.keeps state.1.reuseAllowed

theorem keeps_notes {r : Reconciler (Tracked C)} {notes : List (Sighting C W)}
    {watched : Watched C W} (h : r.Keeps (Quiet notes) (Idle notes) watched) :
    watched.notes = notes := by
  rw [Reconciler.Keeps] at h
  split at h
  · exact h.1
  · exact h.1

/-! ### A run on a live cluster -/

/-- Bodies leave the number of a cluster and the ledger alone. -/
theorem watched_keeps (suite : Testset T C W) :
    suite.watched.Keeps fun stage => Ledger.Alive stage.cluster stage.world.world where
  setup := by
    intro config generator stage h
    exact h
  tests := by
    intro test hmem config generator stage h
    obtain ⟨⟨middle, place⟩, hplace, rfl⟩ := List.mem_map.mp hmem
    obtain ⟨plain, -, rfl⟩ := List.mem_map.mp (List.fst_mem_of_mem_zipIdx hplace)
    exact h
  testTeardown := by
    intro config generator stage h
    exact h
  teardown := by
    intro config generator stage h
    exact h

theorem runOn_sound (h : Sound config launcher state) (suite : Testset T C W)
    (progress : Option Progress) (entropy : Generator) {tracked : Tracked C}
    (halive : Ledger.Alive tracked state.2.world) :
    let attempt := state.1.runOn suite.watched progress entropy tracked state.2
    Sound config launcher (attempt.campaign, attempt.world) where
  config := h.config
  launcher := h.launcher
  keeps := by
    let opening := state.1.opening suite.watched entropy tracked state.2
    have hopening : Ledger.Alive opening.stage.cluster opening.stage.world.world := halive
    have hlast := (state.1.runner suite.watched).run_keeps (watched_keeps suite)
      (state.1.selected suite.watched) progress hopening
    exact ⟨rfl, hlast⟩

/-- The calls of a testset that is run begin with setup, on the cluster that was handed out; a
dry run makes none. -/
theorem runOn_notes (campaign : Campaign (Tracked C) (Watched C W)) (suite : Testset T C W)
    (progress : Option Progress) (entropy : Generator) (tracked : Tracked C)
    (watched : Watched C W) :
    ∃ rest, (∀ sighting ∈ rest, sighting.site ≠ .setup) ∧
      (campaign.runOn suite.watched progress entropy tracked watched).world.notes =
        watched.notes ++
          if campaign.config.dryRun then [] else ⟨.setup, tracked, watched.world⟩ :: rest := by
  -- The runner whose bodies take the notes: its courses are what is noted.
  let plain : Runner T (Tracked C) (Ledger W) :=
    ⟨campaign.config, suite.through Ledger.view, .ofSeed campaign.seed, true⟩
  let opening := campaign.opening suite.watched entropy tracked watched
  obtain ⟨history, notRan, last, hcourse⟩ :=
    plain.exists_course (campaign.selected suite.watched) (opening.stage.seen Noted.view)
  obtain ⟨rest, hcalls, hsites⟩ := hcourse.calls_eq
  refine ⟨rest.map Sighting.ofCall, ?_, ?_⟩
  · intro sighting hmem
    obtain ⟨call, hcall, rfl⟩ := List.mem_map.mp hmem
    exact hsites call hcall
  · cases hdry : campaign.config.dryRun with
    | true =>
      have hstate : ((campaign.runner suite.watched).run (campaign.selected suite.watched)
          progress opening).state = opening :=
        Runner.run_state_of_dry hdry _ progress opening
      have hworld := congrArg (fun state => state.stage.world.notes) hstate
      exact hworld.trans (List.append_nil _).symm
    | false =>
      obtain ⟨-, hnotes⟩ := hcourse.run_noting hdry Sighting.ofCall progress opening rfl
      rw [hcalls] at hnotes
      exact hnotes

/-! ### Any number of testsets -/

theorem giveUp_sound (h : Sound config launcher state) (suite : Testset T C W) (fault : Fault) :
    let attempt := state.1.giveUp suite.watched fault state.2
    Sound config launcher (attempt.campaign, attempt.world) := by
  obtain ⟨hconfig, hlauncher, hreconciler, hworld⟩ :=
    giveUp_campaign state.1 suite.watched fault state.2
  refine ⟨hconfig.trans h.config, hlauncher.trans h.launcher, ?_⟩
  simp only [hreconciler, hworld]
  exact h.keeps

/-- Whatever becomes of a testset, the held cluster is alive afterwards. -/
theorem step_sound (h : Sound config launcher state) (platform : Platform C W)
    (order : Order C W) :
    Sound config launcher (step platform.watched state (order.map Testset.watched)) := by
  have hkeeps := h.acquire platform order.suite
  rw [step, Order.map]
  simp only [runTestset]
  generalize Campaign.acquire platform.watched state.1 order.suite.watched state.2 = got at hkeeps
  -- Asking noted nothing, so the invariant holds again with the notes as they are now.
  have hgot : Sound config launcher ({ state.1 with reconciler := got.reconciler }, got.world) :=
    { config := h.config
      launcher := h.launcher
      keeps := by
        rw [← keeps_notes hkeeps] at hkeeps
        exact hkeeps }
  cases houtcome : got.outcome with
  | error fault =>
    rw [goOn_of_error houtcome]
    exact giveUp_sound hgot order.suite fault
  | ok acquisition =>
    cases hheld : got.reconciler.cluster with
    | none =>
      rw [goOn_of_none houtcome hheld]
      exact giveUp_sound hgot order.suite _
    | some tracked =>
      rw [goOn_of_some houtcome hheld]
      exact runOn_sound hgot order.suite order.progress order.entropy (hkeeps.of_some hheld).2

/-- A watched campaign is sound after any number of testsets. -/
theorem afterWatched_sound (platform : Platform C W) (config : Config) (launcher : Launcher C W)
    (seed : Seed) (reuseAllowed : Bool) (filter : Option String) (world : W)
    (orders : List (Order C W)) :
    Sound config launcher
      (afterWatched platform config launcher seed reuseAllowed filter world orders) := by
  have hstart : Sound config launcher
      ((start config launcher.watched seed reuseAllowed filter).1, Watched.blank world) :=
    { config := rfl
      launcher := rfl
      keeps := ⟨rfl, fun _ hmem => absurd hmem List.not_mem_nil⟩ }
  rw [afterWatched, after]
  generalize ((start config launcher.watched seed reuseAllowed filter).1,
    Watched.blank world) = state at hstart
  induction orders generalizing state with
  | nil => exact hstart
  | cons order rest ih => exact ih _ (step_sound hstart platform order)

/-- What is met in the watched testset is met in the testset. -/
theorem isMet_of_unmet_watched {campaign : Campaign (Tracked C) (Watched C W)}
    {suite : Testset T C W} {tracked : Tracked C}
    (hmet : (campaign.asks suite.watched).toRequirements.unmet tracked = []) :
    ∀ requirement ∈ suite.requirements, requirement.isMet tracked.cluster = true := by
  intro requirement hmem
  have hall := ((campaign.asks suite.watched).unmet_eq_nil_iff tracked).mp hmet
  have hwatched : (requirement.through Ledger.view).through Noted.view ∈
      (campaign.asks suite.watched).requirements :=
    List.mem_map_of_mem (List.mem_map_of_mem hmem)
  exact hall _ hwatched

/-- **No testset runs on a wrong or stopped cluster.** After any number of testsets, the next one
is run just when a cluster can be had for it. Then it is run on the very cluster that the
reconciler holds: every requirement of the testset holds of it, the campaign has never stopped
it, the hook is armed for it, and the first call that is made is that of setup, on it. If no
cluster can be had, no call is made. -/
theorem setup_on_sound_cluster (platform : Platform C W) (config : Config)
    (launcher : Launcher C W) (seed : Seed) (reuseAllowed : Bool) (filter : Option String)
    (world : W) (orders : List (Order C W)) (order : Order C W) :
    let before := afterWatched platform config launcher seed reuseAllowed filter world orders
    let got := acquire platform.watched before.1 order.suite.watched before.2
    let attempt := before.1.runTestset platform.watched order.suite.watched order.progress
      order.entropy before.2
    (∀ fault, got.outcome = .error fault → attempt.world.notes = before.2.notes) ∧
      ∀ acquisition, got.outcome = .ok acquisition → ∃ tracked rest,
        let ran := runOn { before.1 with reconciler := got.reconciler } order.suite.watched
          order.progress order.entropy tracked got.world
        got.reconciler.cluster = some tracked ∧
          attempt = { ran with printed := got.printed ++ ran.printed } ∧
          (∀ requirement ∈ order.suite.requirements,
            requirement.isMet tracked.cluster = true) ∧
          .stopped tracked.id ∉ got.world.world.entries ∧
          got.reconciler.armed = some (platform.index tracked.cluster) ∧
          attempt.world.notes = before.2.notes ++
            (if config.dryRun then [] else ⟨.setup, tracked, got.world.world⟩ :: rest) ∧
          ∀ sighting ∈ rest, sighting.site ≠ .setup := by
  intro before got attempt
  have hsound : Sound config launcher before :=
    afterWatched_sound platform config launcher seed reuseAllowed filter world orders
  have hkeeps : got.reconciler.Keeps (Quiet before.2.notes) (Idle before.2.notes) got.world :=
    hsound.acquire platform order.suite
  have hnotes : got.world.notes = before.2.notes := keeps_notes hkeeps
  constructor
  · intro fault hfault
    have hattempt : attempt.world = got.world := by
      obtain ⟨-, -, -, hworld⟩ := giveUp_campaign
        { before.1 with reconciler := got.reconciler } order.suite.watched fault got.world
      show (before.1.goOn _ _ _ got).world = got.world
      rw [goOn_of_error hfault]
      exact hworld
    rw [hattempt, hnotes]
  · intro acquisition hok
    obtain ⟨tracked, hheld, hmet, harmed⟩ := Reconciler.reconcile_ok hok
    obtain ⟨rest, hsites, hcalls⟩ := runOn_notes { before.1 with reconciler := got.reconciler }
      order.suite order.progress order.entropy tracked got.world
    have hattempt : attempt = _ := goOn_of_some hok hheld
    refine ⟨tracked, rest, hheld, hattempt, isMet_of_unmet_watched hmet, ?_, harmed, ?_, hsites⟩
    · exact (hkeeps.of_some hheld).2.2.2
    · rw [hattempt, ← hsound.config, ← hnotes]
      exact hcalls

/-- A testset that asks for a cluster of a size, and whose test makes it bigger. -/
def sampleOrder (size : Nat) : Order (Nat × Nat) Unit where
  Instance := Nat
  suite :=
    { typeName := "Sample"
      name := fun _ => "Sample"
      create := fun _ => 0
      requirements := [Reconciler.sampleRequirement size]
      tests :=
        [⟨"grow", fun config generator stage =>
          Body.counting (fun _ => .passed) config generator
            { stage with cluster := (stage.cluster.1, stage.cluster.2 + 1) }⟩]
      setup := .counting fun _ => .passed
      teardown := .counting fun _ => .passed
      testTeardown := .counting fun _ => .passed }
  progress := none
  entropy := .ofSeed (.ofUInt64 0)

/-- The first cluster is mutated when it is started, handed on as it was left, mutated in place,
and replaced; the second will not do. -/
example :
    let last := afterWatched Reconciler.samplePlatform .plain Reconciler.sampleLauncher
      (.ofUInt64 0) true none () [sampleOrder 2, sampleOrder 3, sampleOrder 2, sampleOrder 5]
    (last.2.notes.filter fun sighting => sighting.site = .setup).map Sighting.cluster =
        [⟨(0, 2), 0⟩, ⟨(0, 3), 0⟩, ⟨(0, 2), 0⟩] ∧
      last.2.world.entries =
        [.requested, .acquired 0, .stopped 0, .requested, .acquired 1] := by
  decide +kernel

end Campaign

end Testbed
