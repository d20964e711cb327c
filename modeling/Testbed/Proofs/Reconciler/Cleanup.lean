import Testbed.Proofs.Reconciler.Ledger

/-!
# The hook and the end of every cluster

A reconciler is used by asking it for clusters, by changing the cluster it hands out, and by
releasing it. However it is used, its hook is armed for just the cluster that it holds; and so,
when it is dropped in the end, every cluster that it ever held has been stopped once, and each
before the next one was asked for.

The two halves are about one run. The hook is read off the run itself. What was stopped is read
off the ledger of the same run with numbered clusters, of which nothing else is different.

## What is deliberately absent

A body that stops a cluster on its own makes no entry. The ledger is about what a reconciler
does, and about that alone.

## Main definitions

* `Reconciler.Use`, `Reconciler.after` — what is done with a reconciler
* `Reconciler.Use.KeepsIndex` — it leaves the index of clusters as it is

## Main results

* `Reconciler.after_hooked` — the hook after any use
* `Reconciler.after_seen` — uses that show others, one after the other
* `Reconciler.after_tracked_seen` — numbers and entries change nothing else
* `Reconciler.hook_and_end_of_clusters`
-/

namespace Testbed.Reconciler

variable {C W : Type}

/-! ### Using a reconciler -/

/-- What is done with a reconciler. -/
inductive Use (C W : Type) where
  | reconcile (requirements : Requirements C W) (reuseAllowed : Bool)
  | release
  /-- The held cluster is changed by whoever was handed it. -/
  | change (body : C → W → C × W)

/-- A reconciler and its world, once a use has been made of it. -/
def Use.apply (platform : Platform C W) (use : Use C W) (state : Reconciler C × W) :
    Reconciler C × W :=
  match use with
  | .reconcile requirements reuseAllowed =>
    let got := state.1.reconcile platform requirements reuseAllowed state.2
    (got.reconciler, got.world)
  | .release => state.1.release platform state.2
  | .change body =>
    match state.1.cluster with
    | none => state
    | some cluster =>
      let changed := body cluster state.2
      ({ state.1 with cluster := some changed.1 }, changed.2)

/-- A reconciler and its world, once several uses have been made of it in order. -/
def after (platform : Platform C W) (uses : List (Use C W)) (state : Reconciler C × W) :
    Reconciler C × W :=
  uses.foldl (fun state use => use.apply platform state) state

theorem after_append (platform : Platform C W) (uses later : List (Use C W))
    (state : Reconciler C × W) :
    after platform (uses ++ later) state = after platform later (after platform uses state) :=
  List.foldl_append ..

/-- What each use keeps, any number of them keeps. -/
theorem after_induction {platform : Platform C W} {P : Reconciler C × W → Prop}
    {uses : List (Use C W)} {state : Reconciler C × W} (h : P state)
    (hstep : ∀ use ∈ uses, ∀ state, P state → P (use.apply platform state)) :
    P (after platform uses state) := by
  induction uses generalizing state with
  | nil => exact h
  | cons use rest ih =>
    refine ih (hstep use List.mem_cons_self state h) ?_
    intro use hmem
    exact hstep use (List.mem_cons_of_mem _ hmem)

/-! ### Uses that show others -/

section

variable {C' W' : Type} {view : View C' W' C W}

/-- Seen through the view, the one use is the other. -/
inductive Use.Shows (view : View C' W' C W) : Use C' W' → Use C W → Prop where
  | reconcile {requirements' requirements reuseAllowed}
      (hrequirements : Requirements.Shows view requirements' requirements) :
      Shows view (.reconcile requirements' reuseAllowed) (.reconcile requirements reuseAllowed)
  | release : Shows view .release .release
  | change {body' body}
      (hbody : ∀ cluster world, (body' cluster world).map view.cluster view.world =
        body (view.cluster cluster) (view.world world)) :
      Shows view (.change body') (.change body)

variable {platform' : Platform C' W'} {platform : Platform C W}

theorem Use.apply_seen (hplatform : Platform.Shows view platform' platform) {use' : Use C' W'}
    {use : Use C W} (h : Use.Shows view use' use) (state : Reconciler C' × W') :
    seenPair view (use'.apply platform' state) = use.apply platform (seenPair view state) := by
  cases h with
  | @reconcile requirements' requirements reuseAllowed hrequirements =>
    have hseen := reconcile_seen hplatform hrequirements state.1 reuseAllowed state.2
    simp only [apply, seenPair, Prod.map_fst, Prod.map_snd, ← hseen]
    rfl
  | release => exact release_seen hplatform state.1 state.2
  | change hbody =>
    have hseen : (seenPair view state).1.cluster = state.1.cluster.map view.cluster := rfl
    rw [apply, apply, hseen]
    cases state.1.cluster with
    | none => rfl
    | some cluster =>
      have hworld : (seenPair view state).2 = view.world state.2 := rfl
      simp only [Option.map_some, hworld, ← hbody]
      rfl

theorem after_seen (hplatform : Platform.Shows view platform' platform)
    {uses' : List (Use C' W')} {uses : List (Use C W)}
    (h : List.Forall₂ (Use.Shows view) uses' uses) (state : Reconciler C' × W') :
    seenPair view (after platform' uses' state) = after platform uses (seenPair view state) := by
  induction h generalizing state with
  | nil => rfl
  | cons huse _ ih =>
    rw [after, List.foldl_cons, ← after, ih, Use.apply_seen hplatform huse]
    rfl

end

/-! ### The hook -/

/-- The index of no cluster is changed by the use. -/
def Use.KeepsIndex (platform : Platform C W) : Use C W → Prop
  | .reconcile requirements _ =>
    ∀ before, ∀ requirement ∈ (requirements.satisfiable before).2, ∀ cluster world,
      platform.index (requirement.makeMet cluster world).cluster = platform.index cluster
  | .release => True
  | .change body => ∀ cluster world,
    platform.index (body cluster world).1 = platform.index cluster

theorem Use.apply_hooked {platform : Platform C W} {use : Use C W}
    (hindex : use.KeepsIndex platform) {state : Reconciler C × W}
    (h : state.1.Hooked platform) : (use.apply platform state).1.Hooked platform := by
  cases use with
  | reconcile requirements reuseAllowed =>
    refine reconcile_hooked ?_ h reuseAllowed state.2
    intro index before requirement hmem cluster world hsame
    rw [hindex before requirement hmem cluster world, hsame]
  | release => exact release_hooked h state.2
  | change body =>
    rw [apply]
    cases hheld : state.1.cluster with
    | none => exact h
    | some cluster =>
      rw [Hooked, hheld, Option.map_some, ← hindex cluster state.2] at h
      exact h

/-- However a reconciler is used, its hook stays armed for the cluster that it holds. -/
theorem after_hooked {platform : Platform C W} {uses : List (Use C W)}
    (hindex : ∀ use ∈ uses, use.KeepsIndex platform) {state : Reconciler C × W}
    (h : state.1.Hooked platform) : (after platform uses state).1.Hooked platform :=
  after_induction (P := fun state => state.1.Hooked platform) h fun use hmem _ =>
    use.apply_hooked (hindex use hmem)

/-! ### The ledger -/

/-- The same use, of clusters with numbers. -/
def Use.tracked : Use C W → Use (Tracked C) (Ledger W)
  | .reconcile requirements reuseAllowed => .reconcile requirements.tracked reuseAllowed
  | .release => .release
  | .change body => .change fun tracked ledger =>
    let changed := body tracked.cluster ledger.world
    ({ tracked with cluster := changed.1 }, { ledger with world := changed.2 })

theorem Use.tracked_keepsIndex {platform : Platform C W} {use : Use C W}
    (h : use.KeepsIndex platform) : use.tracked.KeepsIndex platform.tracked := by
  cases use with
  | reconcile requirements _ =>
    intro before requirement hmem tracked ledger
    obtain ⟨plain, hplain, rfl⟩ := List.mem_map.mp hmem
    exact h before.cluster plain hplain tracked.cluster ledger.world
  | release => trivial
  | change _ =>
    intro tracked ledger
    exact h tracked.cluster ledger.world

theorem Use.tracked_shows (use : Use C W) : Use.Shows Ledger.view use.tracked use := by
  cases use with
  | reconcile requirements _ => exact .reconcile requirements.tracked_shows
  | release => exact .release
  | change _ => exact .change fun _ _ => rfl

/-- A run with numbers and entries is, looked away from them, the run itself. -/
theorem after_tracked_seen (platform : Platform C W) (uses : List (Use C W))
    (state : Reconciler (Tracked C) × Ledger W) :
    seenPair Ledger.view (after platform.tracked (uses.map Use.tracked) state) =
      after platform uses (seenPair Ledger.view state) := by
  refine after_seen platform.tracked_shows ?_ state
  rw [List.forall₂_map_left_iff, List.forall₂_same]
  intro use _
  exact use.tracked_shows

/-- The ledger of a reconciler goes on from what it was, and is orderly. -/
def Booked (past : List Ledger.Entry) (state : Reconciler (Tracked C) × Ledger W) : Prop :=
  state.1.Keeps (Ledger.Holds past) (Ledger.Clear past) state.2

/-- What was entered so far is the past of all that is entered later. -/
theorem Booked.now {past : List Ledger.Entry} {state : Reconciler (Tracked C) × Ledger W}
    (h : Booked past state) : Booked state.2.entries state := by
  rw [Booked, Keeps] at h ⊢
  split at h
  · exact ⟨List.prefix_rfl, h.2⟩
  · exact ⟨List.prefix_rfl, h.2⟩

theorem Use.apply_booked {platform : Platform C W} {past : List Ledger.Entry} {use : Use C W}
    {state : Reconciler (Tracked C) × Ledger W} (h : Booked past state) :
    Booked past (use.tracked.apply platform.tracked state) := by
  cases use with
  | reconcile requirements reuseAllowed =>
    exact reconcile_keeps (custody_tracked platform requirements past) h reuseAllowed
  | release => exact release_keeps (stopped_tracked platform past) h
  | change body =>
    rw [tracked, apply]
    cases hheld : state.1.cluster with
    | none => exact h
    | some tracked =>
      have hholds : Ledger.Holds past tracked state.2 := Keeps.of_some hheld h
      exact hholds

theorem after_booked {platform : Platform C W} {past : List Ledger.Entry}
    (uses : List (Use C W)) {state : Reconciler (Tracked C) × Ledger W}
    (h : Booked past state) : Booked past (after platform.tracked (uses.map Use.tracked) state) := by
  refine after_induction h ?_
  intro use' hmem state
  obtain ⟨use, -, rfl⟩ := List.mem_map.mp hmem
  exact Use.apply_booked

/-! ### A whole run -/

/-- A reconciler at its start, with a cluster to take over or without. -/
def starting (config : Config) (platform : Platform C W) (adopted : Option C) : Reconciler C :=
  match adopted with
  | none => ofConfig config
  | some cluster => adopt config platform cluster

/-- The same, where clusters have numbers. A cluster that is taken over is the first entry. -/
def startingTracked (config : Config) (platform : Platform C W) (adopted : Option C)
    (world : W) : Reconciler (Tracked C) × Ledger W :=
  match adopted with
  | none => (ofConfig config, .blank world)
  | some cluster =>
    let acquired := (Ledger.blank world).acquire cluster
    (adopt config platform.tracked acquired.1, acquired.2)

/-- A reconciler after some uses, and its world, where clusters have numbers. -/
def afterTracked (config : Config) (platform : Platform C W) (adopted : Option C) (world : W)
    (uses : List (Use C W)) : Reconciler (Tracked C) × Ledger W :=
  after platform.tracked (uses.map Use.tracked) (startingTracked config platform adopted world)

/-- All entries of a run at whose end the reconciler is dropped. -/
def entries (config : Config) (platform : Platform C W) (adopted : Option C) (world : W)
    (uses : List (Use C W)) : List Ledger.Entry :=
  let last := afterTracked config platform adopted world uses
  (last.1.drop platform.tracked last.2).entries

section

variable (config : Config) (platform : Platform C W) (adopted : Option C) (world : W)

theorem starting_hooked : (starting config platform adopted).Hooked platform := by
  cases adopted with
  | none => exact ofConfig_hooked platform config
  | some cluster => exact adopt_hooked config platform cluster

theorem startingTracked_hooked :
    (startingTracked config platform adopted world).1.Hooked platform.tracked := by
  cases adopted with
  | none => exact ofConfig_hooked platform.tracked config
  | some cluster => exact adopt_hooked config platform.tracked _

theorem startingTracked_seen :
    seenPair Ledger.view (startingTracked config platform adopted world) =
      (starting config platform adopted, world) := by
  cases adopted <;> rfl

theorem startingTracked_booked :
    Booked [] (startingTracked config platform adopted world) := by
  have hblank : Ledger.Clear [] (Ledger.blank world) := ⟨List.nil_prefix, .blank⟩
  cases adopted with
  | none => exact hblank
  | some cluster => exact hblank.acquired cluster

theorem afterTracked_seen (uses : List (Use C W)) :
    seenPair Ledger.view (afterTracked config platform adopted world uses) =
      after platform uses (starting config platform adopted, world) := by
  rw [afterTracked, after_tracked_seen, startingTracked_seen]

/-- What was entered when a run was at some point is still there at its end, and then all is
orderly and nothing is in custody. -/
theorem entries_orderly (uses later : List (Use C W))
    (hindex : ∀ use ∈ uses ++ later, use.KeepsIndex platform) :
    (afterTracked config platform adopted world uses).2.entries <+:
        entries config platform adopted world (uses ++ later) ∧
      ∃ next, Ledger.Orderly (entries config platform adopted world (uses ++ later)) none next := by
  have hbooked : Booked [] (afterTracked config platform adopted world uses) :=
    after_booked uses (startingTracked_booked config platform adopted world)
  have hlast : afterTracked config platform adopted world (uses ++ later) =
      after platform.tracked (later.map Use.tracked)
        (afterTracked config platform adopted world uses) := by
    rw [afterTracked, List.map_append, after_append]
    rfl
  have hhooked : (afterTracked config platform adopted world (uses ++ later)).1.Hooked
      platform.tracked := by
    refine after_hooked ?_ (startingTracked_hooked config platform adopted world)
    intro use' hmem
    obtain ⟨use, huse, rfl⟩ := List.mem_map.mp hmem
    exact Use.tracked_keepsIndex (hindex use huse)
  -- The past is what was entered by the middle of the run, so that its end goes on from there.
  have hclear := drop_frees (stopped_tracked platform _) hhooked
    (hlast ▸ after_booked later hbooked.now)
  exact ⟨hclear.1, _, hclear.2⟩

end

/-! ### A sample

Clusters that are an index and a size, and that are started with size one. -/

/-- Nothing has to be done to stop a cluster. -/
def samplePlatform : Platform (Nat × Nat) Unit where
  nodes _ := []
  auth _ := ⟨"user", "password"⟩
  index cluster := cluster.1
  processCount cluster := cluster.2
  teardown cluster world := (cluster, world)
  deleteBucket _ cluster world := (.ok (), cluster, world)

/-- A size below four is said to be possible in place, but a cluster never grows beyond two. -/
def sampleRequirement (size : Nat) : Requirement (Nat × Nat) Unit where
  name := "Size"
  isMet cluster := cluster.2 == size
  canBeMet _ := size < 4
  makeMet cluster world := ⟨.ok (), (cluster.1, min size 2), world, ""⟩
  configure options := options

/-- Every launch succeeds. -/
def sampleLauncher : Launcher (Nat × Nat) Unit :=
  fun options world => ⟨.ok (options.index, 1), world, ""⟩

/-- Asks for a cluster of a size, and for the one that is held if it will do. -/
def sampleUse (size : Nat) : Use (Nat × Nat) Unit :=
  let set : RequirementSet (Nat × Nat) Unit := ⟨[sampleRequirement size], sampleLauncher⟩
  .reconcile set true

theorem sampleUse_keepsIndex (size : Nat) : (sampleUse size).KeepsIndex samplePlatform := by
  intro before requirement hmem cluster world
  obtain ⟨hmem, -⟩ := List.mem_filter.mp hmem
  rw [List.mem_singleton.mp hmem]
  rfl

/-- **The hook, and the end of every cluster.** However a reconciler is used, its hook is armed
just for the index of the cluster that it holds. What it holds has not been stopped; and once it
is dropped, each cluster that it ever held has been stopped once, and before the next one was
asked for. -/
theorem hook_and_end_of_clusters (config : Config) (platform : Platform C W)
    (adopted : Option C) (world : W) (uses later : List (Use C W))
    (hindex : ∀ use ∈ uses ++ later, use.KeepsIndex platform) :
    let plain := after platform uses (starting config platform adopted, world)
    let tracked := afterTracked config platform adopted world uses
    let entries := entries config platform adopted world (uses ++ later)
    (∀ index, plain.1.armed = some index ↔
        ∃ cluster, plain.1.cluster = some cluster ∧ platform.index cluster = index) ∧
      seenPair Ledger.view tracked = plain ∧
      (∀ cluster, tracked.1.cluster = some cluster →
        .stopped cluster.id ∉ tracked.2.entries ∧ .acquired cluster.id ∈ entries) ∧
      (∀ id, .acquired id ∈ entries → entries.count (.stopped id) = 1) ∧
      ∀ before id, before ++ [.requested] <+: entries → .acquired id ∈ before →
        .stopped id ∈ before := by
  intro plain tracked entries
  have hplain : ∀ use ∈ uses, use.KeepsIndex platform := by
    intro use hmem
    exact hindex use (List.mem_append_left _ hmem)
  have hhooked : plain.1.Hooked platform :=
    after_hooked hplain (starting_hooked config platform adopted)
  have hbooked : Booked [] tracked :=
    after_booked uses (startingTracked_booked config platform adopted world)
  obtain ⟨hpast, next, horderly⟩ :=
    entries_orderly config platform adopted world uses later hindex
  refine ⟨hhooked.armed_eq_some_iff, afterTracked_seen config platform adopted world uses,
    ?_, ?_, ?_⟩
  · intro cluster hheld
    obtain ⟨-, hholds⟩ := Keeps.of_some hheld hbooked
    constructor
    · rw [← List.count_eq_zero, hholds.count_stopped]
      simp
    · exact hpast.mem (hholds.acquired_mem_iff.mpr (hholds.held_lt rfl))
  · intro id hid
    rw [horderly.count_stopped, if_pos ⟨horderly.acquired_mem_iff.mp hid, by simp⟩]
  · intro before id hasked hid
    exact horderly.stopped_before_requested hasked hid

/-- The first cluster is mutated in place, then asked for what it cannot be, and replaced; the
second will not do either, is kept, and is stopped at the end. -/
theorem sample_hook_and_end_of_clusters :
    (∀ use ∈ [sampleUse 2, sampleUse 3] ++ [sampleUse 5], use.KeepsIndex samplePlatform) ∧
      (let plain := after samplePlatform [sampleUse 2, sampleUse 3]
        (starting .plain samplePlatform none, ())
      let tracked := afterTracked .plain samplePlatform none () [sampleUse 2, sampleUse 3]
      let entries := entries .plain samplePlatform none ()
        ([sampleUse 2, sampleUse 3] ++ [sampleUse 5])
      (∀ index, plain.1.armed = some index ↔
          ∃ cluster, plain.1.cluster = some cluster ∧ samplePlatform.index cluster = index) ∧
        seenPair Ledger.view tracked = plain ∧
        (∀ cluster, tracked.1.cluster = some cluster →
          .stopped cluster.id ∉ tracked.2.entries ∧ .acquired cluster.id ∈ entries) ∧
        (∀ id, .acquired id ∈ entries → entries.count (.stopped id) = 1) ∧
        ∀ before id, before ++ [.requested] <+: entries → .acquired id ∈ before →
          .stopped id ∈ before) ∧
      entries .plain samplePlatform none () ([sampleUse 2, sampleUse 3] ++ [sampleUse 5]) =
        [.requested, .acquired 0, .stopped 0, .requested, .acquired 1, .stopped 1] := by
  have hindex : ∀ use ∈ [sampleUse 2, sampleUse 3] ++ [sampleUse 5],
      use.KeepsIndex samplePlatform := by
    intro use hmem
    obtain ⟨size, -, rfl⟩ : ∃ size ∈ [2, 3, 5], sampleUse size = use :=
      List.mem_map.mp hmem
    exact sampleUse_keepsIndex size
  exact ⟨hindex,
    hook_and_end_of_clusters .plain samplePlatform none () _ [sampleUse 5] hindex, rfl⟩

end Testbed.Reconciler
