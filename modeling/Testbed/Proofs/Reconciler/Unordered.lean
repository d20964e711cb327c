import Testbed.Proofs.Reconciler.Acts

/-!
# A set of requirements is unordered

Requirements are written down in some order, and in this order they are looked at, mutated and
shape a launch. It makes no difference which order it is, where mutations and shapings commute and
no mutation decides whether another requirement holds.

The last is needed for a fresh cluster. There a mutation is left out if its requirement holds when
its turn comes, so the turns must not decide it.

## Design

What has to be the same of a world is left open, as a function `matters`. If it is the identity,
mutations commute in all that they do; if it is constant, they may do to the world what they like,
as long as no cluster depends on it. Each mutation then has an effect on clusters and what matters,
and a row of mutations is a fold, which permutations leave alone.

## What is deliberately absent

The output is not the same. It shows the order.

## Main definitions

* `Requirement.Interchangeable` — requirements whose order does not matter
* `RequirementSet.Reordered` — the same requirements in another order
* `Reconciler.launches` — the options of the launches of a reconciliation

## Main results

* `Requirement.Interchangeable.makeAllMet` — mutations in a row, in any order
* `Reconciler.launches_eq` — the launches of a reconciliation
* `Reconciler.order_does_not_matter`
-/

namespace Testbed

variable {C W V : Type}

namespace Requirement

/-- The requirements can be taken in any order: their mutations succeed and, as far as `matters`
tells, have effects that commute and that decide about no other requirement; and they shape launches
in any order. -/
structure Interchangeable (matters : W → V) (effect : Requirement C W → C × V → C × V)
    (requirements : List (Requirement C W)) : Prop where
  makeMet : ∀ requirement ∈ requirements, ∀ cluster world,
    (requirement.makeMet cluster world).result = .ok () ∧
      ((requirement.makeMet cluster world).cluster,
          matters (requirement.makeMet cluster world).world) =
        effect requirement (cluster, matters world)
  commute : ∀ first ∈ requirements, ∀ second ∈ requirements, ∀ state,
    effect first (effect second state) = effect second (effect first state)
  isMet : ∀ first ∈ requirements, ∀ second ∈ requirements, first ≠ second → ∀ state,
    second.isMet (effect first state).1 = second.isMet state.1
  configure : ∀ first ∈ requirements, ∀ second ∈ requirements, ∀ options,
    first.configure (second.configure options) = second.configure (first.configure options)

/-- The effect of a requirement whose turn has come. -/
def turn (onlyUnmet : Bool) (effect : Requirement C W → C × V → C × V) (state : C × V)
    (requirement : Requirement C W) : C × V :=
  if onlyUnmet && requirement.isMet state.1 then state else effect requirement state

variable {matters : W → V} {effect : Requirement C W → C × V → C × V}
  {requirements requirements' : List (Requirement C W)} {onlyUnmet : Bool}

theorem turn_of_needless {requirement : Requirement C W} {state : C × V}
    (h : (onlyUnmet && requirement.isMet state.1) = true) :
    turn onlyUnmet effect state requirement = state :=
  if_pos h

theorem turn_of_needed {requirement : Requirement C W} {state : C × V}
    (h : (onlyUnmet && requirement.isMet state.1) = false) :
    turn onlyUnmet effect state requirement = effect requirement state :=
  if_neg (Bool.not_eq_true _ ▸ h)

theorem Interchangeable.subset (h : Interchangeable matters effect requirements)
    (hsubset : requirements' ⊆ requirements) : Interchangeable matters effect requirements' where
  makeMet requirement hmem := h.makeMet requirement (hsubset hmem)
  commute first hfirst second hsecond := h.commute first (hsubset hfirst) second (hsubset hsecond)
  isMet first hfirst second hsecond := h.isMet first (hsubset hfirst) second (hsubset hsecond)
  configure first hfirst second hsecond :=
    h.configure first (hsubset hfirst) second (hsubset hsecond)

/-- Two requirements can take turns in either order. -/
theorem Interchangeable.turn_turn (h : Interchangeable matters effect requirements)
    {first second : Requirement C W} (hfirst : first ∈ requirements)
    (hsecond : second ∈ requirements) (state : C × V) :
    turn onlyUnmet effect (turn onlyUnmet effect state first) second =
      turn onlyUnmet effect (turn onlyUnmet effect state second) first := by
  by_cases hsame : first = second
  · rw [hsame]
  · -- Neither effect decides whether the other is needed.
    have hmet := h.isMet first hfirst second hsecond hsame state
    have hmet' := h.isMet second hsecond first hfirst (Ne.symm hsame) state
    rcases Bool.eq_false_or_eq_true (onlyUnmet && first.isMet state.1) with hneed | hneed <;>
      rcases Bool.eq_false_or_eq_true (onlyUnmet && second.isMet state.1) with hneed' | hneed'
    · rw [turn_of_needless hneed, turn_of_needless hneed', turn_of_needless hneed]
    · rw [turn_of_needless hneed, turn_of_needed hneed', turn_of_needless (by rwa [hmet'])]
    · rw [turn_of_needed hneed, turn_of_needless hneed', turn_of_needless (by rwa [hmet]),
        turn_of_needed hneed]
    · rw [turn_of_needed hneed, turn_of_needed hneed', turn_of_needed (by rwa [hmet]),
        turn_of_needed (by rwa [hmet']), h.commute second hsecond first hfirst state]

/-- A row of mutations is a fold of turns, and none fails. -/
theorem Interchangeable.making (h : Interchangeable matters effect requirements)
    {cluster cluster' : C} {world world' : W} {result : Except Fault Unit}
    (hmaking : Making onlyUnmet requirements cluster world result cluster' world') :
    result = .ok () ∧
      (cluster', matters world') =
        requirements.foldl (turn onlyUnmet effect) (cluster, matters world) := by
  induction hmaking with
  | done => exact ⟨rfl, rfl⟩
  | @passedOver requirement _ cluster world _ _ _ honly hmet _ ih =>
    have hneedless : (onlyUnmet && requirement.isMet (cluster, matters world).1) = true := by
      rw [honly, Bool.true_and]
      exact hmet
    rw [List.foldl_cons, turn_of_needless hneedless]
    exact ih (h.subset (List.subset_cons_self _ _))
  | failed _ hmade hresult =>
    subst hmade
    obtain ⟨hok, -⟩ := h.makeMet _ List.mem_cons_self _ _
    cases hresult.symm.trans hok
  | @made requirement _ cluster world _ _ _ _ hneeded hmade _ _ ih =>
    subst hmade
    obtain ⟨-, heffect⟩ := h.makeMet requirement List.mem_cons_self cluster world
    rw [List.foldl_cons, turn_of_needed hneeded, ← heffect]
    exact ih (h.subset (List.subset_cons_self _ _))

/-- Mutations in a row come to the same in any order. -/
theorem Interchangeable.makeAllMet (h : Interchangeable matters effect requirements)
    (hperm : requirements'.Perm requirements) (onlyUnmet : Bool) (cluster : C) (world : W) :
    let made := Requirement.makeAllMet onlyUnmet requirements cluster world
    let made' := Requirement.makeAllMet onlyUnmet requirements' cluster world
    made.result = .ok () ∧ made'.result = .ok () ∧ made'.cluster = made.cluster ∧
      matters made'.world = matters made.world := by
  intro made made'
  obtain ⟨hok, hfold⟩ := h.making (makeAllMet_making onlyUnmet requirements cluster world)
  obtain ⟨hok', hfold'⟩ := (h.subset hperm.subset).making
    (makeAllMet_making onlyUnmet requirements' cluster world)
  have hsame : requirements'.foldl (turn onlyUnmet effect) (cluster, matters world) =
      requirements.foldl (turn onlyUnmet effect) (cluster, matters world) := by
    refine hperm.foldl_eq' ?_ _
    intro first hfirst second hsecond state
    exact h.turn_turn (hperm.subset hfirst) (hperm.subset hsecond) state
  obtain ⟨hcluster, hworld⟩ := Prod.mk.inj ((hfold'.trans hsame).trans hfold.symm)
  exact ⟨hok, hok', hcluster, hworld⟩

end Requirement

/-! ### Sets in another order -/

namespace RequirementSet

/-- The one set has the requirements of the other, in any order. -/
structure Reordered (set' set : RequirementSet C W) : Prop where
  requirements : set'.requirements.Perm set.requirements
  launcher : set'.launcher = set.launcher

variable {set set' : RequirementSet C W} {matters : W → V}
  {effect : Requirement C W → C × V → C × V}

theorem Reordered.unmet (hsame : set'.Reordered set) (cluster : C) :
    (set'.unmet cluster).Perm (set.unmet cluster) :=
  hsame.requirements.filter _

theorem Reordered.names_unmet (hsame : set'.Reordered set) (cluster : C) :
    (Requirement.names (set'.unmet cluster)).Perm (Requirement.names (set.unmet cluster)) :=
  (hsame.unmet cluster).map Requirement.name

theorem Reordered.unmet_eq_nil_iff (hsame : set'.Reordered set) {cluster : C} :
    set'.unmet cluster = [] ↔ set.unmet cluster = [] := by
  rw [← List.isEmpty_iff, ← List.isEmpty_iff, (hsame.unmet cluster).isEmpty_eq]

/-- Either everything holds for both, or something is left for both. -/
theorem Reordered.unmet_cases (hsame : set'.Reordered set) (cluster : C) :
    (set'.toRequirements.unmet cluster = [] ∧ set.toRequirements.unmet cluster = []) ∨
      (set'.toRequirements.unmet cluster ≠ [] ∧ set.toRequirements.unmet cluster ≠ []) := by
  have hiff : set'.toRequirements.unmet cluster = [] ↔ set.toRequirements.unmet cluster = [] :=
    hsame.unmet_eq_nil_iff
  by_cases hmet : set.toRequirements.unmet cluster = []
  · exact .inl ⟨hiff.mpr hmet, hmet⟩
  · exact .inr ⟨mt hiff.mp hmet, hmet⟩

theorem Reordered.satisfiable (hsame : set'.Reordered set) (cluster : C) :
    set'.satisfiable cluster = set.satisfiable cluster :=
  (hsame.unmet cluster).all_eq

theorem Reordered.configure (hsame : set'.Reordered set)
    (h : Requirement.Interchangeable matters effect set.requirements) (base : LaunchOptions) :
    set'.configure base = set.configure base := by
  refine hsame.requirements.foldl_eq' ?_ base
  intro first hfirst second hsecond options
  exact h.configure second (hsame.requirements.subset hsecond) first
    (hsame.requirements.subset hfirst) options

/-- Mutations in place come to the same. -/
theorem Reordered.makeAllMet_unmet (hsame : set'.Reordered set)
    (h : Requirement.Interchangeable matters effect set.requirements) (cluster : C) (world : W) :
    let made := Requirement.makeAllMet false (set.unmet cluster) cluster world
    let made' := Requirement.makeAllMet false (set'.unmet cluster) cluster world
    made.result = .ok () ∧ made'.result = .ok () ∧ made'.cluster = made.cluster ∧
      matters made'.world = matters made.world :=
  (h.subset fun _ hmem => (List.mem_filter.mp hmem).1).makeAllMet (hsame.unmet cluster) false
    cluster world

/-- The same fresh cluster is started. -/
theorem Reordered.create (hsame : set'.Reordered set)
    (h : Requirement.Interchangeable matters effect set.requirements) (base : LaunchOptions)
    (world : W) :
    (set'.create base world).result = (set.create base world).result ∧
      matters (set'.create base world).world = matters (set.create base world).world := by
  rw [RequirementSet.create, RequirementSet.create, hsame.configure h, hsame.launcher]
  generalize set.launcher (set.configure base) world = launched
  rcases launched with ⟨_ | cluster, world, printed⟩
  · exact ⟨rfl, rfl⟩
  · obtain ⟨hok, hok', hcluster, hworld⟩ := h.makeAllMet hsame.requirements true cluster world
    simp only [hok, hok', hcluster, hworld, and_self]

end RequirementSet

namespace Reconciler

/-! ### Launches -/

/-- The options of the launches of a reconciliation, in order. -/
def launches (platform : Platform C W) (r : Reconciler C) (set : RequirementSet C W)
    (reuseAllowed : Bool) (world : W) : List LaunchOptions :=
  (r.acts platform set reuseAllowed world).filterMap Act.options?

/-- A reconciliation launches once if the held cluster is replaced, and otherwise not at all. -/
theorem launches_eq (platform : Platform C W) (r : Reconciler C) (set : RequirementSet C W)
    (reuseAllowed : Bool) (world : W) :
    r.launches platform set reuseAllowed world =
      if r.replaces set.toRequirements reuseAllowed then
        [set.configure (r.retire platform world).1.launchBase]
      else [] := by
  rw [launches]
  rcases r.met_or_satisfiable_or_unavailable set.toRequirements reuseAllowed with
    ⟨cluster, rfl, hheld, hmet⟩ | ⟨cluster, rfl, hheld, hunmet, hsatisfiable⟩ | hunavailable
  · rw [replaces_of_met rfl hheld hmet, acts_of_met hheld hmet]
    rfl
  · rw [replaces_of_satisfiable rfl hheld hsatisfiable,
      (acts_of_satisfiable platform hheld hunmet hsatisfiable world).options_eq]
    rfl
  · obtain ⟨later, hacts, hlaunching⟩ := acts_of_unavailable platform hunavailable world
    rw [hunavailable.replaces, hacts, List.filterMap_append, hlaunching.options_eq,
      List.filterMap_map]
    simp [Function.comp_def, Act.options?]

/-! ### Either order -/

/-- The same answer, but for the order in which requirements are named. -/
inductive SameAnswer : Except Fault Acquisition → Except Fault Acquisition → Prop where
  | refl {outcome} : SameAnswer outcome outcome
  | unmet {names' names} (hnames : names'.Perm names) :
      SameAnswer (.error (.unmetAfterReconcile names')) (.error (.unmetAfterReconcile names))

/-- The same answer and the same reconciler, in worlds of which what matters is the same. -/
structure Attempt.Alike (matters : W → V) (got' got : Attempt (Except Fault Acquisition) C W) :
    Prop where
  outcome : SameAnswer got'.outcome got.outcome
  reconciler : got'.reconciler = got.reconciler
  world : matters got'.world = matters got.world

variable {platform : Platform C W} {r : Reconciler C} {set set' : RequirementSet C W}
  {reuseAllowed : Bool} {matters : W → V} {effect : Requirement C W → C × V → C × V}

theorem replaces_reordered (hsame : set'.Reordered set) (r : Reconciler C) (reuseAllowed : Bool) :
    r.replaces set'.toRequirements reuseAllowed = r.replaces set.toRequirements reuseAllowed := by
  rw [replaces, replaces]
  cases r.cluster with
  | none => rfl
  | some cluster =>
    show (!reuseAllowed || !(set'.unmet cluster).isEmpty && !set'.satisfiable cluster) =
      (!reuseAllowed || !(set.unmet cluster).isEmpty && !set.satisfiable cluster)
    rw [(hsame.unmet cluster).isEmpty_eq, hsame.satisfiable]

theorem createNext_reordered (hsame : set'.Reordered set)
    (h : Requirement.Interchangeable matters effect set.requirements) (platform : Platform C W)
    (r : Reconciler C) (world : W) :
    Attempt.Alike matters (r.createNext platform set' world) (r.createNext platform set world) := by
  obtain ⟨retired, hretired⟩ : ∃ retired, r.retire platform world = retired := ⟨_, rfl⟩
  obtain ⟨hresult, hworld⟩ := hsame.create h retired.1.launchBase retired.2
  unfold createNext replace
  simp only [hretired]
  rw [show (set'.toRequirements.create retired.1.launchBase retired.2).result =
    (set.toRequirements.create retired.1.launchBase retired.2).result from hresult]
  cases (set.toRequirements.create retired.1.launchBase retired.2).result with
  | error fault => exact ⟨.refl, rfl, hworld⟩
  | ok cluster =>
    rcases hsame.unmet_cases cluster with ⟨hmet', hmet⟩ | ⟨hmet', hmet⟩
    · simp only [hmet, hmet', List.isEmpty_nil, if_true]
      exact ⟨.refl, rfl, hworld⟩
    · simp only [List.isEmpty_iff, hmet, hmet', if_false]
      exact ⟨.unmet (hsame.names_unmet cluster), rfl, hworld⟩

theorem reconcile_reordered_of_satisfiable (hsame : set'.Reordered set)
    (h : Requirement.Interchangeable matters effect set.requirements) (platform : Platform C W)
    {cluster : C} (hheld : r.cluster = some cluster)
    (hunmet : set.toRequirements.unmet cluster ≠ [])
    (hsatisfiable : (set.toRequirements.satisfiable cluster).1 = true) (world : W) :
    Attempt.Alike matters (r.reconcile platform set' true world)
      (r.reconcile platform set true world) := by
  have hunmet' : set'.toRequirements.unmet cluster ≠ [] := mt hsame.unmet_eq_nil_iff.mp hunmet
  have hsatisfiable' : (set'.toRequirements.satisfiable cluster).1 = true :=
    (hsame.satisfiable cluster).trans hsatisfiable
  obtain ⟨made, hmade⟩ : ∃ made,
    Requirement.makeAllMet false (set.unmet cluster) cluster world = made := ⟨_, rfl⟩
  obtain ⟨made', hmade'⟩ : ∃ made',
    Requirement.makeAllMet false (set'.unmet cluster) cluster world = made' := ⟨_, rfl⟩
  obtain ⟨hok, hok', hcluster, hworld⟩ := hsame.makeAllMet_unmet h cluster world
  rw [hmade] at hok hcluster hworld
  rw [hmade'] at hok' hcluster hworld
  rw [reconcile_of_tryReuse (tryReuse_of_satisfiable hheld hunmet hsatisfiable hmade),
    reconcile_of_tryReuse (tryReuse_of_satisfiable hheld hunmet' hsatisfiable' hmade')]
  simp only [hok, hok', hcluster]
  rcases hsame.unmet_cases made.cluster with ⟨hmet', hmet⟩ | ⟨hmet', hmet⟩
  · simp only [hmet, hmet', List.isEmpty_nil, if_true]
    exact ⟨.refl, rfl, hworld⟩
  · simp only [List.isEmpty_iff, hmet, hmet', if_false]
    exact ⟨.unmet (hsame.names_unmet made.cluster), rfl, hworld⟩

/-- A reconciliation in either order. -/
theorem reconcile_reordered (hsame : set'.Reordered set)
    (h : Requirement.Interchangeable matters effect set.requirements) (platform : Platform C W)
    (r : Reconciler C) (reuseAllowed : Bool) (world : W) :
    Attempt.Alike matters (r.reconcile platform set' reuseAllowed world)
      (r.reconcile platform set reuseAllowed world) := by
  rcases r.met_or_satisfiable_or_unavailable set.toRequirements reuseAllowed with
    ⟨cluster, rfl, hheld, hmet⟩ | ⟨cluster, rfl, hheld, hunmet, hsatisfiable⟩ | hunavailable
  · have hmet' : set'.toRequirements.unmet cluster = [] := hsame.unmet_eq_nil_iff.mpr hmet
    rw [reconcile_of_met hheld hmet, reconcile_of_met hheld hmet']
    exact ⟨.refl, rfl, rfl⟩
  · exact reconcile_reordered_of_satisfiable hsame h platform hheld hunmet hsatisfiable world
  · have hunavailable' : r.Unavailable set'.toRequirements reuseAllowed :=
      hunavailable.congr (fun _ => hsame.unmet_eq_nil_iff) hsame.satisfiable
    rw [reconcile_of_unavailable hunavailable, reconcile_of_unavailable hunavailable']
    exact createNext_reordered hsame h platform r world

/-- **A set of requirements is unordered.** Where the order of mutations and shapings does not
matter, a reconciliation for the requirements in any other order gives the same answer, but for the
order in which unmet ones are named, and leaves the same cluster, hook and next index. It launches
with the same options, if it launches at all. -/
theorem order_does_not_matter (matters : W → V) (effect : Requirement C W → C × V → C × V)
    (set set' : RequirementSet C W) (hperm : set'.requirements.Perm set.requirements)
    (hlauncher : set'.launcher = set.launcher)
    (h : Requirement.Interchangeable matters effect set.requirements) (platform : Platform C W)
    (r : Reconciler C) (reuseAllowed : Bool) (world : W) :
    Attempt.Alike matters (r.reconcile platform set' reuseAllowed world)
        (r.reconcile platform set reuseAllowed world) ∧
      r.launches platform set' reuseAllowed world = r.launches platform set reuseAllowed world := by
  have hsame : set'.Reordered set := ⟨hperm, hlauncher⟩
  refine ⟨reconcile_reordered hsame h platform r reuseAllowed world, ?_⟩
  rw [launches_eq, launches_eq, replaces_reordered hsame, hsame.configure h]

/-! ### A sample

Clusters that are an index and two switches. Who turns one on writes it into the world. -/

/-- Stopping a cluster turns nothing off. -/
def sampleSwitches : Platform (Nat × Bool × Bool) (List String) where
  nodes _ := []
  auth _ := ⟨"user", "password"⟩
  index cluster := cluster.1
  processCount _ := 1
  teardown cluster world := (cluster, world)
  deleteBucket _ cluster world := (.ok (), cluster, world)

/-- The first switch is on. -/
def sampleFirst : Requirement (Nat × Bool × Bool) (List String) where
  name := "First"
  isMet cluster := cluster.2.1
  canBeMet _ := true
  makeMet cluster world := ⟨.ok (), (cluster.1, true, cluster.2.2), world ++ ["first"], ""⟩
  configure options := { options with numNodes := options.numNodes + 1 }

/-- The second switch is on. -/
def sampleSecond : Requirement (Nat × Bool × Bool) (List String) where
  name := "Second"
  isMet cluster := cluster.2.2
  canBeMet _ := true
  makeMet cluster world := ⟨.ok (), (cluster.1, cluster.2.1, true), world ++ ["second"], ""⟩
  configure options := { options with numNodes := options.numNodes + 2 }

/-- The requirements in an order. A cluster is started with both switches off. -/
def sampleInOrder (requirements : List (Requirement (Nat × Bool × Bool) (List String))) :
    RequirementSet (Nat × Bool × Bool) (List String) :=
  ⟨requirements, fun options world => ⟨.ok (options.index, false, false), world, ""⟩⟩

/-- What a mutation does to a cluster, whatever the world. -/
def sampleEffect (requirement : Requirement (Nat × Bool × Bool) (List String))
    (state : (Nat × Bool × Bool) × Unit) : (Nat × Bool × Bool) × Unit :=
  ((requirement.makeMet state.1 []).cluster, ())

theorem sample_interchangeable :
    Requirement.Interchangeable (fun _ => ()) sampleEffect [sampleFirst, sampleSecond] := by
  have hmem {requirement : Requirement (Nat × Bool × Bool) (List String)}
      (h : requirement ∈ [sampleFirst, sampleSecond]) :
      requirement = sampleFirst ∨ requirement = sampleSecond := by
    simpa using h
  constructor
  · intro requirement h cluster world
    rcases hmem h with rfl | rfl <;> exact ⟨rfl, rfl⟩
  · intro first hfirst second hsecond state
    rcases hmem hfirst with rfl | rfl <;> rcases hmem hsecond with rfl | rfl <;> rfl
  · intro first hfirst second hsecond hne state
    rcases hmem hfirst with rfl | rfl <;> rcases hmem hsecond with rfl | rfl
    · exact absurd rfl hne
    · rfl
    · rfl
    · exact absurd rfl hne
  · intro first hfirst second hsecond options
    rcases hmem hfirst with rfl | rfl <;> rcases hmem hsecond with rfl | rfl <;>
      simp [sampleFirst, sampleSecond, Nat.add_right_comm]

/-- The switches are turned on in either order. Only the world tells. -/
theorem sample_order_does_not_matter :
    [sampleSecond, sampleFirst].Perm [sampleFirst, sampleSecond] ∧
      Requirement.Interchangeable (fun _ => ()) sampleEffect [sampleFirst, sampleSecond] ∧
      let r := adopt .plain sampleSwitches (0, false, false)
      let set := sampleInOrder [sampleFirst, sampleSecond]
      let set' := sampleInOrder [sampleSecond, sampleFirst]
      (Attempt.Alike (fun _ => ()) (r.reconcile sampleSwitches set' false [])
          (r.reconcile sampleSwitches set false []) ∧
        r.launches sampleSwitches set' false [] = r.launches sampleSwitches set false []) ∧
      (r.reconcile sampleSwitches set false []).world = ["first", "second"] ∧
      (r.reconcile sampleSwitches set' false []).world = ["second", "first"] := by
  have hperm : [sampleSecond, sampleFirst].Perm [sampleFirst, sampleSecond] := .swap ..
  exact ⟨hperm, sample_interchangeable,
    order_does_not_matter (fun _ => ()) sampleEffect (sampleInOrder [sampleFirst, sampleSecond])
      (sampleInOrder [sampleSecond, sampleFirst]) hperm rfl sample_interchangeable sampleSwitches
      (adopt .plain sampleSwitches (0, false, false)) false [],
    rfl, rfl⟩

end Reconciler

end Testbed
