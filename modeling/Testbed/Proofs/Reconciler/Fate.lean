import Testbed.Proofs.Reconciler.View

/-!
# What becomes of clusters in a reconciliation

The ways of a reconciliation say how it ends for whoever asked. Of the clusters they say less: a
way that ends without a new cluster may have started one all the same. A set of requirements
starts a cluster and then mutates it, and if a mutation fails the cluster is given up. Nobody
holds it from then on, and nobody stops it.

So the clusters are looked at apart from the answer. The held one is kept; or it is retired, and
then no other is started, or one is started and given up, or one is started and held.

## What is deliberately absent

Whether the cluster that is held will do, and for what the hook is armed, are not part of a fate.
`Reconciler.Way` tells both.

## Main definitions

* `RequirementSet.givesUp`, `Reconciler.givesUp` — a cluster is started and given up
* `RequirementSet.Creation` — how a set of requirements starts a cluster
* `Reconciler.Fate` — what becomes of clusters

## Main results

* `RequirementSet.create_creation`, `Reconciler.reconcile_fate`
* `Reconciler.givesUp_seen` — what is carried beside a cluster does not save it
-/

namespace Testbed

variable {C W : Type}

/-! ### How a set of requirements starts a cluster -/

namespace RequirementSet

theorem configure_index {set : RequirementSet C W}
    (h : ∀ requirement ∈ set.requirements, ∀ options,
      (requirement.configure options).index = options.index) (base : LaunchOptions) :
    (set.configure base).index = base.index := by
  rw [configure]
  generalize set.requirements = requirements at h
  induction requirements generalizing base with
  | nil => rfl
  | cons requirement rest ih =>
    obtain ⟨hfirst, hrest⟩ := List.forall_mem_cons.mp h
    rw [List.foldl_cons, ih _ hrest, hfirst]

/-- A cluster is started, and a mutation that it still needs fails. -/
def givesUp (set : RequirementSet C W) (base : LaunchOptions) (world : W) : Bool :=
  let launched := set.launcher (set.configure base) world
  match launched.result with
  | .error _ => false
  | .ok cluster =>
    match (Requirement.makeAllMet true set.requirements cluster launched.world).result with
    | .error _ => true
    | .ok _ => false

/-- `set.Creation base world gaveUp result world'`: asked for a cluster in `world`, the set comes
to `result` and leaves `world'`. -/
inductive Creation (set : RequirementSet C W) (base : LaunchOptions) (world : W) :
    Bool → Except Fault C → W → Prop where
  | notLaunched {launched fault}
      (hlaunched : set.launcher (set.configure base) world = launched)
      (hresult : launched.result = .error fault) :
      Creation set base world false (.error fault) launched.world
  /-- The cluster is started, and with a mutation that fails it is out of everyone's hands. -/
  | givenUp {launched cluster made fault}
      (hlaunched : set.launcher (set.configure base) world = launched)
      (hresult : launched.result = .ok cluster)
      (hmade : Requirement.makeAllMet true set.requirements cluster launched.world = made)
      (hfault : made.result = .error fault) :
      Creation set base world true (.error fault) made.world
  | created {launched cluster made}
      (hlaunched : set.launcher (set.configure base) world = launched)
      (hresult : launched.result = .ok cluster)
      (hmade : Requirement.makeAllMet true set.requirements cluster launched.world = made)
      (hok : made.result = .ok ()) :
      Creation set base world false (.ok made.cluster) made.world

theorem create_creation (set : RequirementSet C W) (base : LaunchOptions) (world : W) :
    set.Creation base world (set.givesUp base world) (set.create base world).result
      (set.create base world).world := by
  obtain ⟨launched, hlaunched⟩ : ∃ launched,
    set.launcher (set.configure base) world = launched := ⟨_, rfl⟩
  simp only [create, givesUp, hlaunched]
  cases hresult : launched.result with
  | error fault =>
    show Creation set base world false (.error fault) launched.world
    exact .notLaunched hlaunched hresult
  | ok cluster =>
    obtain ⟨made, hmade⟩ : ∃ made,
      Requirement.makeAllMet true set.requirements cluster launched.world = made := ⟨_, rfl⟩
    simp only [hmade]
    cases hok : made.result with
    | error fault =>
      show Creation set base world true (.error fault) made.world
      exact .givenUp hlaunched hresult hmade hok
    | ok _ =>
      show Creation set base world false (.ok made.cluster) made.world
      exact .created hlaunched hresult hmade hok

theorem Shows.givesUp {C' W' : Type} {view : View C' W' C W} {set' : RequirementSet C' W'}
    {set : RequirementSet C W} (h : Shows view set' set) (base : LaunchOptions) (world : W') :
    set'.givesUp base world = set.givesUp base (view.world world) := by
  have hlaunched := h.launcher (set.configure base) world
  have hmade := Requirement.makeAllMet_seen true h.requirements
  rw [RequirementSet.givesUp, RequirementSet.givesUp, h.configure, ← hlaunched]
  rcases set'.launcher (set.configure base) world with ⟨_ | cluster, world, printed⟩
  · rfl
  · simp only [Effect.seen, Except.map, ← hmade]
    rfl

end RequirementSet

namespace Reconciler

/-! ### Whether the held cluster is kept -/

/-- The held cluster is not asked, or there is none, or it will not do and cannot be made to. -/
def replaces (r : Reconciler C) (requirements : Requirements C W) (reuseAllowed : Bool) : Bool :=
  !reuseAllowed ||
    match r.cluster with
    | none => true
    | some cluster =>
      !(requirements.unmet cluster).isEmpty && !(requirements.satisfiable cluster).1

variable {r : Reconciler C} {requirements : Requirements C W} {reuseAllowed : Bool}

theorem Unavailable.replaces (h : r.Unavailable requirements reuseAllowed) :
    r.replaces requirements reuseAllowed = true := by
  cases h with
  | notAllowed => rfl
  | notHeld hheld => simp [Reconciler.replaces, hheld]
  | notSatisfiable hheld hunmet hsatisfiable =>
    simp [Reconciler.replaces, hheld, hunmet, hsatisfiable]

theorem replaces_of_met {cluster : C} (hallowed : reuseAllowed = true)
    (hheld : r.cluster = some cluster) (hmet : requirements.unmet cluster = []) :
    r.replaces requirements reuseAllowed = false := by
  simp [replaces, hallowed, hheld, hmet]

theorem replaces_of_satisfiable {cluster : C} (hallowed : reuseAllowed = true)
    (hheld : r.cluster = some cluster)
    (hsatisfiable : (requirements.satisfiable cluster).1 = true) :
    r.replaces requirements reuseAllowed = false := by
  simp [replaces, hallowed, hheld, hsatisfiable]

/-- The reconciliation starts a cluster that is given up. -/
def givesUp (platform : Platform C W) (r : Reconciler C) (set : RequirementSet C W)
    (reuseAllowed : Bool) (world : W) : Bool :=
  r.replaces set.toRequirements reuseAllowed &&
    set.givesUp (r.retire platform world).1.launchBase (r.retire platform world).2

/-! ### Fates -/

/-- `r.Fate platform set world gaveUp r' world'`: a reconciliation finds `r` and `world` and leaves
`r'` and `world'`, and in between a cluster was given up or not. -/
inductive Fate (platform : Platform C W) (r : Reconciler C) (set : RequirementSet C W) (world : W) :
    Bool → Reconciler C → W → Prop where
  /-- The held cluster is kept, after the mutations that it needs. -/
  | kept {cluster made r'} (hheld : r.cluster = some cluster)
      (hmade : Requirement.makeAllMet false (set.unmet cluster) cluster world = made)
      (hcluster : r'.cluster = some made.cluster) (hnext : r'.nextIndex = r.nextIndex) :
      Fate platform r set world false r' made.world
  /-- The held cluster is retired, and no other is started. -/
  | notLaunched {launched fault}
      (hlaunched : set.launcher (set.configure (r.retire platform world).1.launchBase)
        (r.retire platform world).2 = launched)
      (hresult : launched.result = .error fault) :
      Fate platform r set world false (r.retire platform world).1 launched.world
  /-- Another is started and given up. -/
  | givenUp {launched cluster made fault}
      (hlaunched : set.launcher (set.configure (r.retire platform world).1.launchBase)
        (r.retire platform world).2 = launched)
      (hresult : launched.result = .ok cluster)
      (hmade : Requirement.makeAllMet true set.requirements cluster launched.world = made)
      (hfault : made.result = .error fault) :
      Fate platform r set world true (r.retire platform world).1 made.world
  /-- Another is started and held. -/
  | launched {launched cluster made r'}
      (hlaunched : set.launcher (set.configure (r.retire platform world).1.launchBase)
        (r.retire platform world).2 = launched)
      (hresult : launched.result = .ok cluster)
      (hmade : Requirement.makeAllMet true set.requirements cluster launched.world = made)
      (hok : made.result = .ok ()) (hcluster : r'.cluster = some made.cluster)
      (hnext : r'.nextIndex = (r.retire platform world).1.nextIndex) :
      Fate platform r set world false r' made.world

variable {platform : Platform C W} {set : RequirementSet C W} {world : W}

theorem givesUp_of_unavailable (h : r.Unavailable set.toRequirements reuseAllowed) :
    r.givesUp platform set reuseAllowed world =
      set.givesUp (r.retire platform world).1.launchBase (r.retire platform world).2 := by
  rw [givesUp, h.replaces, Bool.true_and]

theorem givesUp_of_not_replaces (h : r.replaces set.toRequirements reuseAllowed = false) :
    r.givesUp platform set reuseAllowed world = false := by
  rw [givesUp, h, Bool.false_and]

/-- What was created is held. -/
theorem fate_of_created {cluster : C} {r' : Reconciler C}
    (hcreated : (set.create (r.retire platform world).1.launchBase
      (r.retire platform world).2).result = .ok cluster)
    (hcluster : r'.cluster = some cluster)
    (hnext : r'.nextIndex = (r.retire platform world).1.nextIndex) :
    r.Fate platform set world
      (set.givesUp (r.retire platform world).1.launchBase (r.retire platform world).2) r'
      (set.create (r.retire platform world).1.launchBase (r.retire platform world).2).world := by
  have hcreation := set.create_creation (r.retire platform world).1.launchBase
    (r.retire platform world).2
  rw [hcreated] at hcreation
  generalize set.givesUp _ _ = gaveUp at hcreation ⊢
  generalize (set.create _ _).world = world' at hcreation ⊢
  cases hcreation with
  | created hlaunched hresult hmade hok =>
    exact .launched hlaunched hresult hmade hok hcluster hnext

/-- Where nothing was created, a cluster may have been started. -/
theorem fate_of_not_created {fault : Fault}
    (hcreated : (set.create (r.retire platform world).1.launchBase
      (r.retire platform world).2).result = .error fault) :
    r.Fate platform set world
      (set.givesUp (r.retire platform world).1.launchBase (r.retire platform world).2)
      (r.retire platform world).1
      (set.create (r.retire platform world).1.launchBase (r.retire platform world).2).world := by
  have hcreation := set.create_creation (r.retire platform world).1.launchBase
    (r.retire platform world).2
  rw [hcreated] at hcreation
  generalize set.givesUp _ _ = gaveUp at hcreation ⊢
  generalize (set.create _ _).world = world' at hcreation ⊢
  cases hcreation with
  | notLaunched hlaunched hresult => exact .notLaunched hlaunched hresult
  | givenUp hlaunched hresult hmade hfault => exact .givenUp hlaunched hresult hmade hfault

/-- Every reconciliation for a set of requirements has one of the fates. -/
theorem reconcile_fate (platform : Platform C W) (r : Reconciler C) (set : RequirementSet C W)
    (reuseAllowed : Bool) (world : W) :
    let got := r.reconcile platform set reuseAllowed world
    r.Fate platform set world (r.givesUp platform set reuseAllowed world) got.reconciler
      got.world := by
  have hway := reconcile_way platform r set reuseAllowed world
  generalize r.reconcile platform set reuseAllowed world = got at hway
  rcases got with ⟨outcome, reconciler, world', printed⟩
  cases hway with
  | @reused cluster hallowed hheld hmet =>
    rw [givesUp_of_not_replaces (replaces_of_met hallowed hheld hmet)]
    have hmade : Requirement.makeAllMet false (set.unmet cluster) cluster world' =
        ⟨.ok (), cluster, world', ""⟩ := by
      rw [show set.unmet cluster = [] from hmet, Requirement.makeAllMet]
    exact .kept hheld hmade hheld rfl
  | reconciled hallowed hheld _ hsatisfiable hmade _ _ =>
    rw [givesUp_of_not_replaces (replaces_of_satisfiable hallowed hheld hsatisfiable)]
    exact .kept hheld hmade rfl rfl
  | stuck hallowed hheld _ hsatisfiable hmade _ =>
    rw [givesUp_of_not_replaces (replaces_of_satisfiable hallowed hheld hsatisfiable)]
    exact .kept hheld hmade rfl rfl
  | notCreated hunavailable hcreated hresult =>
    subst hcreated
    rw [givesUp_of_unavailable hunavailable]
    exact fate_of_not_created hresult
  | createdUnmet hunavailable hcreated hresult _ =>
    subst hcreated
    rw [givesUp_of_unavailable hunavailable]
    exact fate_of_created hresult rfl rfl
  | created hunavailable hcreated hresult _ =>
    subst hcreated
    rw [givesUp_of_unavailable hunavailable]
    exact fate_of_created hresult rfl rfl

/-! ### Where more is carried -/

section

variable {C' W' : Type} {view : View C' W' C W} {set' : RequirementSet C' W'}
  {platform' : Platform C' W'}

theorem replaces_seen {requirements' : Requirements C' W'}
    (h : Requirements.Shows view requirements' requirements) (r : Reconciler C')
    (reuseAllowed : Bool) :
    r.replaces requirements' reuseAllowed = (r.seen view).replaces requirements reuseAllowed := by
  have hseen : (r.seen view).cluster = r.cluster.map view.cluster := rfl
  rw [replaces, replaces, hseen]
  cases r.cluster with
  | none => rfl
  | some cluster =>
    simp only [Option.map_some, Requirement.isEmpty_of_shows (h.unmet cluster), h.satisfiable]

theorem givesUp_seen (hplatform : Platform.Shows view platform' platform)
    (hset : RequirementSet.Shows view set' set) (r : Reconciler C') (reuseAllowed : Bool)
    (world : W') :
    r.givesUp platform' set' reuseAllowed world =
      (r.seen view).givesUp platform set reuseAllowed (view.world world) := by
  have hretired := retire_seen hplatform r world
  rw [givesUp, givesUp, replaces_seen hset.toRequirements, ← hretired, hset.givesUp]
  rfl

end

end Reconciler

end Testbed
