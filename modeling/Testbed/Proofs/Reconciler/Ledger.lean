import Mathlib.Data.List.Infix
import Testbed.Proofs.Reconciler.Custody
import Testbed.Proofs.Reconciler.View

/-!
# A ledger of clusters

Two clusters with the same index and the same nodes cannot be told apart by what they are. So
each cluster that a reconciler comes by is given a number of its own, which it keeps through all
that is done to it, and a ledger in the world says in which order clusters were asked for, came
into custody and were stopped.

Bodies, mutations and launches act on what is seen and leave number and ledger alone; only the
platform that the reconciler stops its clusters with, and the requirements that it asks for them,
make entries. A body or a mutation that stopped a cluster on its own would go unnoticed: the
ledger is that of the reconciler.

## Main definitions

* `Tracked`, `Ledger` — clusters with numbers, worlds with entries
* `Platform.tracked`, `Requirements.tracked` — the same, making entries
* `Ledger.Orderly` — how a ledger comes about
* `Ledger.Balanced` — how it comes about where clusters can get lost
* `Ledger.Holds`, `Ledger.Clear` — an orderly ledger with a cluster in custody, and without

## Main results

* `Ledger.Orderly.count_stopped`, `Ledger.Orderly.stopped_before_requested` — what an orderly
  ledger says of the end of clusters
* `Reconciler.custody_tracked` — a reconciler keeps an orderly ledger
-/

namespace Testbed

variable {C W : Type}

/-! ### Numbers and entries -/

/-- A cluster with a number of its own. -/
structure Tracked (C : Type) where
  cluster : C
  id : Nat
  deriving DecidableEq, Repr

/-- An entry of a ledger. -/
inductive Ledger.Entry where
  /-- The next cluster is asked for. -/
  | requested
  /-- A cluster comes into custody, because it was asked for or because it is taken over. -/
  | acquired (id : Nat)
  /-- The reconciler stops a cluster. -/
  | stopped (id : Nat)
  deriving DecidableEq, Repr

/-- A world with a ledger. -/
structure Ledger (W : Type) where
  world : W
  /-- The number that the next cluster is given. -/
  next : Nat
  entries : List Ledger.Entry

namespace Ledger

/-- Looks away from numbers and ledgers. -/
def view : View (Tracked C) (Ledger W) C W where
  cluster tracked := tracked.cluster
  world ledger := ledger.world
  putCluster cluster tracked := { tracked with cluster }
  putWorld world ledger := { ledger with world }
  cluster_put _ _ := rfl
  world_put _ _ := rfl

/-- The world has become another, and an entry is made. -/
def enter (ledger : Ledger W) (world : W) (entry : Entry) : Ledger W :=
  { ledger with world, entries := ledger.entries ++ [entry] }

/-- A cluster is given the next number, and an entry is made of that. -/
def acquire (ledger : Ledger W) (cluster : C) : Tracked C × Ledger W :=
  (⟨cluster, ledger.next⟩,
    { ledger with
      next := ledger.next + 1
      entries := ledger.entries ++ [.acquired ledger.next] })

/-- The ledger before any cluster is known. -/
def blank (world : W) : Ledger W :=
  ⟨world, 0, []⟩

end Ledger

/-- The same platform, making an entry of each cluster that is stopped. -/
def Platform.tracked (platform : Platform C W) : Platform (Tracked C) (Ledger W) :=
  { platform.through Ledger.view with
    teardown := fun tracked ledger =>
      let stopped := platform.teardown tracked.cluster ledger.world
      ({ tracked with cluster := stopped.1 }, ledger.enter stopped.2 (.stopped tracked.id)) }

/-- What a launch leaves, with an entry that a cluster was asked for and another if it is had. -/
def Effect.tracked (ledger : Ledger W) (created : Effect C W) : Effect (Tracked C) (Ledger W) :=
  let ledger := ledger.enter created.world .requested
  match created.result with
  | .error fault => ⟨.error fault, ledger, created.printed⟩
  | .ok cluster =>
    let acquired := ledger.acquire cluster
    ⟨.ok acquired.1, acquired.2, created.printed⟩

/-- The same launcher, making entries of what is launched. -/
def Launcher.tracked (launcher : Launcher C W) : Launcher (Tracked C) (Ledger W) :=
  fun options ledger => (launcher options ledger.world).tracked ledger

/-- The same requirements, making entries of the clusters that are started for them. -/
def Requirements.tracked (requirements : Requirements C W) :
    Requirements (Tracked C) (Ledger W) where
  text := requirements.text
  unmet tracked := (requirements.unmet tracked.cluster).map (Requirement.through Ledger.view)
  satisfiable tracked :=
    let judged := requirements.satisfiable tracked.cluster
    (judged.1, judged.2.map (Requirement.through Ledger.view))
  create base ledger := (requirements.create base ledger.world).tracked ledger

theorem Effect.tracked_seen (ledger : Ledger W) (created : Effect C W) :
    (created.tracked ledger).seen Ledger.view = created := by
  rcases created with ⟨_ | _, world, printed⟩ <;> rfl

theorem Platform.tracked_shows (platform : Platform C W) :
    Platform.Shows Ledger.view platform.tracked platform where
  index _ := rfl
  processCount _ := rfl
  teardown _ _ := rfl

theorem Requirements.tracked_shows (requirements : Requirements C W) :
    Requirements.Shows Ledger.view requirements.tracked requirements where
  text := rfl
  unmet _ := Requirement.map_through_shows ..
  satisfiable _ := rfl
  unsatisfied _ := Requirement.map_through_shows ..
  create _ ledger := Effect.tracked_seen ledger _

/-! ### How a ledger comes about -/

namespace Ledger

/-- `Orderly entries held next`: clusters were asked for only while none was in custody; each
that came into custody got the next number; and none was stopped but the one in custody. `held`
is its number. -/
inductive Orderly : List Entry → Option Nat → Nat → Prop where
  | blank : Orderly [] none 0
  | requested {entries next} (h : Orderly entries none next) :
      Orderly (entries ++ [.requested]) none next
  | acquired {entries next} (h : Orderly entries none next) :
      Orderly (entries ++ [.acquired next]) (some next) (next + 1)
  | stopped {entries id next} (h : Orderly entries (some id) next) :
      Orderly (entries ++ [.stopped id]) none next

/-- `Balanced entries held lost next`: the same, where a cluster may get out of custody without
being stopped. `lost` are the numbers of those, in order. -/
inductive Balanced : List Entry → Option Nat → List Nat → Nat → Prop where
  | blank : Balanced [] none [] 0
  | requested {entries lost next} (h : Balanced entries none lost next) :
      Balanced (entries ++ [.requested]) none lost next
  | acquired {entries lost next} (h : Balanced entries none lost next) :
      Balanced (entries ++ [.acquired next]) (some next) lost (next + 1)
  | stopped {entries id lost next} (h : Balanced entries (some id) lost next) :
      Balanced (entries ++ [.stopped id]) none lost next
  /-- Nothing is entered when a cluster gets lost. -/
  | lost {entries id lost next} (h : Balanced entries (some id) lost next) :
      Balanced entries none (lost ++ [id]) next

variable {entries : List Entry} {held : Option Nat} {lost : List Nat} {next id : Nat}

/-- The cluster in custody and the lost ones have numbers that were given, and the one in custody
is none of the lost. -/
theorem Balanced.known (h : Balanced entries held lost next) :
    (∀ id, held = some id → id < next ∧ id ∉ lost) ∧ ∀ id ∈ lost, id < next := by
  induction h with
  | blank => simp
  | requested _ ih => exact ih
  | @acquired _ _ next _ ih =>
    constructor
    · intro id hheld
      cases hheld
      exact ⟨Nat.lt_succ_self _, fun hlost => absurd (ih.2 _ hlost) (Nat.lt_irrefl _)⟩
    · intro id hlost
      exact Nat.lt_succ_of_lt (ih.2 id hlost)
  | stopped _ ih => exact ⟨by simp, ih.2⟩
  | lost _ ih =>
    refine ⟨by simp, ?_⟩
    intro id hlost
    rcases List.mem_append.mp hlost with hlost | hlost
    · exact ih.2 id hlost
    · cases List.mem_singleton.mp hlost
      exact (ih.1 _ rfl).1

/-- Just the numbers below the next one were given. -/
theorem Balanced.acquired_mem_iff (h : Balanced entries held lost next) :
    .acquired id ∈ entries ↔ id < next := by
  induction h with
  | blank => simp
  | requested _ ih => simpa using ih
  | acquired _ ih =>
    rw [List.mem_append, ih, List.mem_singleton, Entry.acquired.injEq]
    omega
  | stopped _ ih => simpa using ih
  | lost _ ih => exact ih

/-- A cluster that came into custody was stopped once, unless it is still in custody or lost, and
no other cluster was stopped at all. -/
theorem Balanced.count_stopped (h : Balanced entries held lost next) :
    entries.count (.stopped id) = if id < next ∧ held ≠ some id ∧ id ∉ lost then 1 else 0 := by
  induction h with
  | blank => simp
  | requested _ ih => simpa [List.count_append] using ih
  | @acquired _ lost next h ih =>
    rw [List.count_append, ih, List.count_singleton]
    by_cases hid : id = next
    · subst hid
      simp
    · have hlt : id < next + 1 ↔ id < next := by omega
      simp [hlt, Ne.symm hid]
  | @stopped _ id' lost next h ih =>
    rw [List.count_append, ih, List.count_singleton]
    obtain ⟨hlt, hlost⟩ := h.known.1 id' rfl
    by_cases hid : id' = id
    · subst hid
      simp [hlt, hlost]
    · simp [hid]
  | @lost _ id' lost next h ih =>
    rw [ih]
    by_cases hid : id' = id
    · subst hid
      simp
    · simp [hid, Ne.symm hid]

theorem Orderly.balanced (h : Orderly entries held next) : Balanced entries held [] next := by
  induction h with
  | blank => exact .blank
  | requested _ ih => exact .requested ih
  | acquired _ ih => exact .acquired ih
  | stopped _ ih => exact .stopped ih

theorem Orderly.held_lt (h : Orderly entries held next) (hheld : held = some id) : id < next :=
  (h.balanced.known.1 id hheld).1

theorem Orderly.acquired_mem_iff (h : Orderly entries held next) :
    .acquired id ∈ entries ↔ id < next :=
  h.balanced.acquired_mem_iff

/-- A cluster that came into custody was stopped once, unless it is still in custody, and no
other cluster was stopped at all. -/
theorem Orderly.count_stopped (h : Orderly entries held next) :
    entries.count (.stopped id) = if id < next ∧ held ≠ some id then 1 else 0 := by
  have hcount : entries.count (.stopped id) = _ := h.balanced.count_stopped
  simpa using hcount

/-- Whatever was in custody before a cluster was asked for had been stopped by then. -/
theorem Orderly.stopped_before_requested (h : Orderly entries held next) {before : List Entry}
    (hasked : before ++ [.requested] <+: entries) (hid : .acquired id ∈ before) :
    .stopped id ∈ before := by
  induction h with
  | blank => simp at hasked
  | @requested entries next h ih =>
    rcases List.prefix_concat_iff.mp hasked with heq | hasked
    -- This request is the last entry: nothing is in custody, so all that was is stopped.
    · obtain ⟨rfl, -⟩ := List.append_inj' heq rfl
      have hcount : before.count (.stopped id) = 1 := by
        rw [h.count_stopped]
        simpa using h.acquired_mem_iff.mp hid
      exact List.count_pos_iff.mp (by omega)
    · exact ih hasked
  | acquired _ ih =>
    rcases List.prefix_concat_iff.mp hasked with heq | hasked
    · simp at heq
    · exact ih hasked
  | stopped _ ih =>
    rcases List.prefix_concat_iff.mp hasked with heq | hasked
    · simp at heq
    · exact ih hasked

/-- The ledger goes on from what it was, is orderly, and has a cluster in custody. -/
def Holds (past : List Entry) (tracked : Tracked C) (ledger : Ledger W) : Prop :=
  past <+: ledger.entries ∧ Orderly ledger.entries (some tracked.id) ledger.next

/-- The ledger goes on from what it was, is orderly, and has no cluster in custody. -/
def Clear (past : List Entry) (ledger : Ledger W) : Prop :=
  past <+: ledger.entries ∧ Orderly ledger.entries none ledger.next

theorem Holds.stopped {past : List Entry} {tracked : Tracked C} {ledger : Ledger W}
    (h : Holds past tracked ledger) (world : W) :
    Clear past (ledger.enter world (.stopped tracked.id)) :=
  ⟨h.1.trans (List.prefix_append ..), .stopped h.2⟩

theorem Clear.requested {past : List Entry} {ledger : Ledger W} (h : Clear past ledger)
    (world : W) : Clear past (ledger.enter world .requested) :=
  ⟨h.1.trans (List.prefix_append ..), .requested h.2⟩

theorem Clear.acquired {past : List Entry} {ledger : Ledger W} (h : Clear past ledger)
    (cluster : C) : Holds past (ledger.acquire cluster).1 (ledger.acquire cluster).2 :=
  ⟨h.1.trans (List.prefix_append ..), .acquired h.2⟩

end Ledger

/-! ### A reconciler keeps an orderly ledger -/

theorem Reconciler.stopped_tracked (platform : Platform C W) (past : List Ledger.Entry) :
    StoppedInto platform.tracked (Ledger.Holds past) (Ledger.Clear past) := by
  intro tracked ledger h
  exact h.stopped _

theorem Reconciler.custody_tracked (platform : Platform C W) (requirements : Requirements C W)
    (past : List Ledger.Entry) :
    Custody platform.tracked requirements.tracked (Ledger.Holds past) (Ledger.Clear past) where
  kept := by
    intro before requirement hmem tracked ledger h
    obtain ⟨plain, -, rfl⟩ := List.mem_map.mp hmem
    exact h
  started := by
    intro base ledger h
    show Leaves _ _ ((requirements.create base ledger.world).tracked ledger)
    rcases requirements.create base ledger.world with ⟨_ | cluster, world, printed⟩
    · exact h.requested world
    · exact (h.requested world).acquired cluster
  stopped := stopped_tracked platform past

end Testbed
