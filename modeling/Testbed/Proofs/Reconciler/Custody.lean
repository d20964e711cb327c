import Testbed.Proofs.Reconciler.Ways

/-!
# Keeping a cluster in custody

Whatever holds of a held cluster and its world, and of a world without one, a reconciler keeps,
if starting, mutating and stopping a cluster keep it. A `Custody` is such a pair of conditions
with what is asked of each of the three; which call is made, and how it ends, does not matter.

The hook needs a rule of its own, for it is part of the reconciler and not of the cluster: it is
armed for the index of the held cluster, as long as mutations leave the index as it is.

## What is deliberately absent

Nothing is asked of clusters that are neither held nor handed out. In particular what becomes of
a cluster that a set of requirements starts and then gives up is not looked at.

## Main definitions

* `Reconciler.Keeps` — one condition on a held cluster, another on a world without one
* `Reconciler.Custody` — what has to keep them
* `Reconciler.Hooked` — the hook is armed for the held cluster

## Main results

* `Reconciler.custody_of_launcher` — what sets of requirements ask of their launcher
* `Reconciler.reconcile_keeps`, `Reconciler.release_keeps`, `Reconciler.drop_frees`
* `Reconciler.reconcile_hooked`, `Reconciler.release_hooked`
* `Reconciler.reconcile_ok` — what is handed out will do
-/

namespace Testbed.Reconciler

variable {C W : Type} {platform : Platform C W} {requirements : Requirements C W}
  {held : C → W → Prop} {free : W → Prop} {r : Reconciler C} {world : W}

/-! ### The held cluster -/

/-- The one condition holds of the held cluster and the world, or there is none, and the other
holds of the world. -/
def Keeps (held : C → W → Prop) (free : W → Prop) (r : Reconciler C) (world : W) : Prop :=
  match r.cluster with
  | some cluster => held cluster world
  | none => free world

theorem Keeps.of_some {cluster : C} (hheld : r.cluster = some cluster)
    (h : r.Keeps held free world) : held cluster world := by
  rwa [Keeps, hheld] at h

theorem Keeps.of_none (hheld : r.cluster = none) (h : r.Keeps held free world) : free world := by
  rwa [Keeps, hheld] at h

theorem keeps_of_some {cluster : C} (hheld : r.cluster = some cluster) (h : held cluster world) :
    r.Keeps held free world := by
  rwa [Keeps, hheld]

theorem keeps_of_none (hheld : r.cluster = none) (h : free world) : r.Keeps held free world := by
  rwa [Keeps, hheld]

/-- The mutations that a reconciliation may make in place keep a condition. -/
def KeptInPlace (requirements : Requirements C W) (held : C → W → Prop) : Prop :=
  ∀ before, ∀ requirement ∈ (requirements.satisfiable before).2, ∀ cluster world,
    held cluster world →
      held (requirement.makeMet cluster world).cluster (requirement.makeMet cluster world).world

/-- A launch leaves a cluster of which the one condition holds, or none, and then the other holds
of the world. -/
def Leaves (held : C → W → Prop) (free : W → Prop) (created : Effect C W) : Prop :=
  match created.result with
  | .ok cluster => held cluster created.world
  | .error _ => free created.world

/-- Starting a cluster leads from the one condition to the other, if it succeeds. -/
def StartedInto (requirements : Requirements C W) (held : C → W → Prop) (free : W → Prop) :
    Prop :=
  ∀ base world, free world → Leaves held free (requirements.create base world)

/-- Stopping a cluster leads back. -/
def StoppedInto (platform : Platform C W) (held : C → W → Prop) (free : W → Prop) : Prop :=
  ∀ cluster world, held cluster world → free (platform.teardown cluster world).2

/-- What is asked of requirements and a platform, so that two conditions are kept. -/
structure Custody (platform : Platform C W) (requirements : Requirements C W)
    (held : C → W → Prop) (free : W → Prop) : Prop where
  kept : KeptInPlace requirements held
  started : StartedInto requirements held free
  stopped : StoppedInto platform held free

theorem KeptInPlace.makeAllMet (hkept : KeptInPlace requirements held) {before cluster : C}
    {made : Mutation C W} (h : held cluster world)
    (hmade : Requirement.makeAllMet false (requirements.satisfiable before).2 cluster world =
      made) : held made.cluster made.world := by
  subst hmade
  exact Requirement.makeAllMet_keeps false (hkept before) h

/-- A set of requirements starts a cluster by a launch and mutations. Those that fail give the
cluster up, so the second condition has to follow from the first. -/
theorem startedInto_of_launcher {set : RequirementSet C W}
    (hlauncher : ∀ options world, free world → Leaves held free (set.launcher options world))
    (hkept : ∀ requirement ∈ set.requirements, ∀ cluster world, held cluster world →
      held (requirement.makeMet cluster world).cluster (requirement.makeMet cluster world).world)
    (hlost : ∀ cluster world, held cluster world → free world) :
    StartedInto set.toRequirements held free := by
  intro base world hfree
  have hlaunched := hlauncher (set.configure base) world hfree
  show Leaves held free (set.create base world)
  rw [RequirementSet.create]
  generalize set.launcher (set.configure base) world = launched at hlaunched
  rcases launched with ⟨_ | cluster, world', printed⟩
  · exact hlaunched
  · have hheld : held cluster world' := hlaunched
    have hmade := Requirement.makeAllMet_keeps true hkept hheld
    simp only
    generalize Requirement.makeAllMet true set.requirements cluster world' = made at hmade
    rcases made with ⟨_ | _, cluster, world, printed⟩
    · exact hlost _ _ hmade
    · exact hmade

theorem custody_of_launcher {set : RequirementSet C W}
    (hlauncher : ∀ options world, free world → Leaves held free (set.launcher options world))
    (hkept : ∀ requirement ∈ set.requirements, ∀ cluster world, held cluster world →
      held (requirement.makeMet cluster world).cluster (requirement.makeMet cluster world).world)
    (hlost : ∀ cluster world, held cluster world → free world)
    (hstopped : StoppedInto platform held free) :
    Custody platform set.toRequirements held free where
  kept := by
    intro before requirement hmem
    exact hkept requirement (List.mem_filter.mp hmem).1
  started := startedInto_of_launcher hlauncher hkept hlost
  stopped := hstopped

/-! ### Each step keeps the conditions -/

theorem retire_frees (hstopped : StoppedInto platform held free) (h : r.Keeps held free world) :
    free (r.retire platform world).2 := by
  cases hheld : r.cluster with
  | none =>
    rw [retire_of_none platform hheld]
    exact h.of_none hheld
  | some cluster =>
    rw [retire_of_some platform hheld]
    exact hstopped cluster world (h.of_some hheld)

/-- **Custody.** Whichever way a reconciliation goes, it keeps the conditions. -/
theorem reconcile_keeps (hcustody : Custody platform requirements held free)
    (h : r.Keeps held free world) (reuseAllowed : Bool) :
    let got := r.reconcile platform requirements reuseAllowed world
    got.reconciler.Keeps held free got.world := by
  -- The three ways that replace the cluster share their beginning, so it is made here.
  have hfree := retire_frees hcustody.stopped h
  have hstarted := hcustody.started (r.retire platform world).1.launchBase _ hfree
  have hway := reconcile_way platform r requirements reuseAllowed world
  generalize r.reconcile platform requirements reuseAllowed world = got at hway
  rcases got with ⟨outcome, reconciler, world', printed⟩
  cases hway with
  | reused _ hheld _ =>
    have hcluster := h.of_some hheld
    simpa only [Keeps, hheld] using hcluster
  | reconciled _ hheld _ _ hmade _ _ => exact hcustody.kept.makeAllMet (h.of_some hheld) hmade
  | stuck _ hheld _ _ hmade _ => exact hcustody.kept.makeAllMet (h.of_some hheld) hmade
  | notCreated _ hcreated hresult =>
    rw [hcreated, Leaves, hresult] at hstarted
    simpa only [Keeps, retire_cluster] using hstarted
  | createdUnmet _ hcreated hresult _ =>
    rw [hcreated, Leaves, hresult] at hstarted
    exact hstarted
  | created _ hcreated hresult _ =>
    rw [hcreated, Leaves, hresult] at hstarted
    exact hstarted

theorem release_cluster (platform : Platform C W) (r : Reconciler C) (world : W) :
    (r.release platform world).1.cluster = none := by
  cases hheld : r.cluster with
  | none => rw [release_of_none platform hheld, hheld]
  | some cluster => rw [release_of_some platform hheld]

theorem release_frees (hstopped : StoppedInto platform held free) (h : r.Keeps held free world) :
    free (r.release platform world).2 := by
  cases hheld : r.cluster with
  | none =>
    rw [release_of_none platform hheld]
    exact h.of_none hheld
  | some cluster =>
    rw [release_of_some platform hheld]
    exact hstopped cluster world (h.of_some hheld)

theorem release_keeps (hstopped : StoppedInto platform held free) (h : r.Keeps held free world) :
    (r.release platform world).1.Keeps held free (r.release platform world).2 := by
  rw [Keeps, release_cluster]
  exact release_frees hstopped h

/-! ### The hook -/

/-- The hook is armed for the held cluster, and for none if none is held. -/
def Hooked (platform : Platform C W) (r : Reconciler C) : Prop :=
  r.armed = r.cluster.map platform.index

theorem Hooked.armed_eq_some_iff (h : r.Hooked platform) (index : Nat) :
    r.armed = some index ↔ ∃ cluster, r.cluster = some cluster ∧ platform.index cluster = index := by
  rw [show r.armed = _ from h, Option.map_eq_some_iff]

theorem Hooked.isSome_armed (h : r.Hooked platform) : r.armed.isSome = r.cluster.isSome := by
  rw [show r.armed = _ from h, Option.isSome_map]

theorem ofConfig_hooked (platform : Platform C W) (config : Config) :
    (ofConfig config : Reconciler C).Hooked platform := rfl

theorem adopt_hooked (config : Config) (platform : Platform C W) (cluster : C) :
    (adopt config platform cluster).Hooked platform := rfl

theorem retire_hooked (h : r.Hooked platform) (world : W) :
    (r.retire platform world).1.Hooked platform := by
  cases hheld : r.cluster with
  | none =>
    rw [retire_of_none platform hheld]
    exact h
  | some cluster =>
    rw [retire_of_some platform hheld]
    rfl

theorem release_hooked (h : r.Hooked platform) (world : W) :
    (r.release platform world).1.Hooked platform := by
  cases hheld : r.cluster with
  | none =>
    rw [release_of_none platform hheld]
    exact h
  | some cluster =>
    rw [release_of_some platform hheld]
    rfl

/-- A reconciliation leaves the hook armed for the held cluster, if mutations in place leave its
index as it is. Only the way that ends with a cluster that will not do relies on this. -/
theorem reconcile_hooked
    (hindex : ∀ index, KeptInPlace requirements fun cluster _ => platform.index cluster = index)
    (h : r.Hooked platform) (reuseAllowed : Bool) (world : W) :
    (r.reconcile platform requirements reuseAllowed world).reconciler.Hooked platform := by
  have hway := reconcile_way platform r requirements reuseAllowed world
  generalize r.reconcile platform requirements reuseAllowed world = got at hway
  rcases got with ⟨outcome, reconciler, world', printed⟩
  cases hway with
  | reused _ hheld _ => rw [Hooked, hheld, Option.map_some]
  | stuck _ hheld _ _ hmade _ =>
    have hsame := (hindex _).makeAllMet rfl hmade
    rw [Hooked, Option.map_some, hsame]
    rw [Hooked, hheld, Option.map_some] at h
    exact h
  | notCreated => exact retire_hooked h world
  | reconciled => rfl
  | createdUnmet => rfl
  | created => rfl

/-- What is handed out meets the requirements, and the hook is armed for it. -/
theorem reconcile_ok {reuseAllowed : Bool} {acquisition : Acquisition}
    (hok : (r.reconcile platform requirements reuseAllowed world).outcome = .ok acquisition) :
    let got := (r.reconcile platform requirements reuseAllowed world).reconciler
    ∃ cluster, got.cluster = some cluster ∧ requirements.unmet cluster = [] ∧
      got.armed = some (platform.index cluster) := by
  have hway := reconcile_way platform r requirements reuseAllowed world
  generalize r.reconcile platform requirements reuseAllowed world = got at hok hway
  rcases got with ⟨outcome, reconciler, world', printed⟩
  cases hway with
  | @reused cluster _ hheld hmet => exact ⟨cluster, hheld, hmet, rfl⟩
  | @reconciled _ made _ _ _ _ _ _ hmet => exact ⟨made.cluster, rfl, hmet, rfl⟩
  | @created _ cluster _ _ _ hmet => exact ⟨cluster, rfl, hmet, rfl⟩
  | stuck => cases hok
  | notCreated => cases hok
  | createdUnmet => cases hok

/-! ### The end -/

/-- A reconciler that holds nothing stops nothing, even if its hook is armed. -/
theorem drop_of_none (platform : Platform C W) (hheld : r.cluster = none) (world : W) :
    r.drop platform world = world := by
  rw [drop, release_of_none platform hheld, ite_self]

/-- A reconciler that is dropped with its hook armed for what it holds leaves nothing held. -/
theorem drop_frees (hstopped : StoppedInto platform held free) (hhooked : r.Hooked platform)
    (h : r.Keeps held free world) : free (r.drop platform world) := by
  rw [drop]
  split
  · exact release_frees hstopped h
  · rename_i hnone
    rw [hhooked.isSome_armed] at hnone
    exact h.of_none (Option.not_isSome_iff_eq_none.mp hnone)

end Testbed.Reconciler
