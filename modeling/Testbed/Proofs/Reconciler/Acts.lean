import Testbed.Proofs.Reconciler.Fate

/-!
# What a reconciliation does

What a reconciliation comes to does not tell what was done for it. So a platform, a launcher and
requirements are made to take down what they do, in a world that carries these notes beside what
the reconciler sees. The reconciliation that takes notes is an ordinary one, by the same
`Reconciler.reconcile`, and what is noted in it are its acts.

An act says more than that something was done. A requirement is noted by its place in the set,
since two requirements may bear one name; and whatever can fail is noted with its fault. So it can
be read off the acts alone which requirements were mutated, how far that went, and what went wrong
first.

## What is deliberately absent

To look at a cluster is no act. Nor do bodies act here: they have their turn between two
reconciliations.

## Main definitions

* `Reconciler.Act`, `Reconciler.acts` — what is done in a reconciliation
* `Reconciler.UpToFault` — requirements are mutated in order, up to the first that fails
* `Reconciler.Launching` — a cluster is launched, and then mutated

## Main results

* `Reconciler.reconcile_recorded` — taking notes changes nothing else
* `Reconciler.acts_of_met`, `Reconciler.acts_of_satisfiable`, `Reconciler.acts_of_unavailable` — the
  acts, by what is found
* `Reconciler.outcome_of_acts` — the first fault is passed on, or it depends on what holds
-/

namespace Testbed

variable {C W α : Type}

/-- The fault of a result, if it has one. -/
def Fault.of? : Except Fault α → Option Fault
  | .ok _ => none
  | .error fault => some fault

@[simp]
theorem Fault.of?_map {β : Type} (f : α → β) (result : Except Fault α) :
    Fault.of? (result.map f) = Fault.of? result := by
  cases result <;> rfl

/-! ### Acts -/

/-- Something that is done in a reconciliation, and the fault that it ended with, if any. -/
inductive Reconciler.Act (C : Type) where
  | stop (cluster : C)
  | launch (options : LaunchOptions) (fault : Option Fault)
  /-- The mutation of the requirement at a place in the set is applied. -/
  | mutate (place : Nat) (fault : Option Fault)
  deriving DecidableEq, Repr

namespace Reconciler.Act

/-- The fault that the act ended with. To stop a cluster never fails. -/
def fault? : Act C → Option Fault
  | stop _ => none
  | launch _ fault => fault
  | mutate _ fault => fault

/-- The options of a launch. -/
def options? : Act C → Option LaunchOptions
  | launch options _ => some options
  | _ => none

/-- The fault of the first act that has one. -/
def firstFault (acts : List (Act C)) : Option Fault :=
  acts.findSome? fault?

theorem firstFault_stop (clusters : List C) (acts : List (Act C)) :
    firstFault (clusters.map stop ++ acts) = firstFault acts := by
  induction clusters with
  | nil => rfl
  | cons _ _ ih => exact ih

end Reconciler.Act

open Reconciler (Act)

/-- The same platform, taking down what it stops. -/
def Platform.recorded (platform : Platform C W) : Platform C (Noted (Act C) W) :=
  { platform.through Noted.view with
    teardown := fun cluster noted =>
      let stopped := platform.teardown cluster noted.world
      (stopped.1, ⟨stopped.2, noted.notes ++ [.stop cluster]⟩) }

/-- The same launcher, taking down what it launches. -/
def Launcher.recorded (launcher : Launcher C W) : Launcher C (Noted (Act C) W) :=
  fun options noted =>
    let launched := launcher options noted.world
    { result := launched.result
      world := ⟨launched.world, noted.notes ++ [.launch options (Fault.of? launched.result)]⟩
      printed := launched.printed }

/-- The same requirement, taking down its mutations under a place. -/
def Requirement.recorded (place : Nat) (requirement : Requirement C W) :
    Requirement C (Noted (Act C) W) where
  name := requirement.name
  isMet := requirement.isMet
  canBeMet := requirement.canBeMet
  makeMet cluster noted :=
    let made := requirement.makeMet cluster noted.world
    { result := made.result
      cluster := made.cluster
      world := ⟨made.world, noted.notes ++ [.mutate place (Fault.of? made.result)]⟩
      printed := made.printed }
  configure := requirement.configure

/-- Requirements with their places, taking down their mutations. -/
def Requirement.recordAll (entries : List (Requirement C W × Nat)) :
    List (Requirement C (Noted (Act C) W)) :=
  entries.map fun entry => entry.1.recorded entry.2

/-- The same set, taking down what is done for it. -/
def RequirementSet.recorded (set : RequirementSet C W) : RequirementSet C (Noted (Act C) W) :=
  ⟨Requirement.recordAll set.requirements.zipIdx, set.launcher.recorded⟩

/-- The places of the requirements that do not hold, in order. -/
def RequirementSet.unmetPlaces (set : RequirementSet C W) (cluster : C) : List Nat :=
  (set.requirements.zipIdx.filter fun entry => !entry.1.isMet cluster).map Prod.snd

theorem Platform.recorded_shows (platform : Platform C W) :
    Platform.Shows Noted.view platform.recorded platform where
  index _ := rfl
  processCount _ := rfl
  teardown _ _ := rfl

theorem Launcher.recorded_shows (launcher : Launcher C W) :
    Launcher.Shows Noted.view launcher.recorded launcher := by
  intro options noted
  show _ = launcher options noted.world
  rw [Launcher.recorded]
  generalize launcher options noted.world = launched
  rcases launched with ⟨_ | _, world, printed⟩ <;> rfl

theorem RequirementSet.recorded_shows (set : RequirementSet C W) :
    RequirementSet.Shows Noted.view set.recorded set where
  requirements := by
    have h : List.Forall₂ (Requirement.Shows Noted.view)
        (Requirement.recordAll set.requirements.zipIdx) (set.requirements.zipIdx.map Prod.fst) := by
      rw [Requirement.recordAll, List.forall₂_map_left_iff, List.forall₂_map_right_iff,
        List.forall₂_same]
      intro entry _
      exact ⟨rfl, fun _ => rfl, fun _ => rfl, fun _ _ => rfl, rfl⟩
    rwa [List.zipIdx_map_fst] at h
  launcher := set.launcher.recorded_shows

theorem RequirementSet.recorded_unmet (set : RequirementSet C W) (cluster : C) :
    set.recorded.unmet cluster =
      Requirement.recordAll
        (set.requirements.zipIdx.filter fun entry => !entry.1.isMet cluster) :=
  List.filter_map

theorem RequirementSet.recorded_unmet_eq_nil_iff {set : RequirementSet C W} {cluster : C} :
    set.recorded.unmet cluster = [] ↔ set.unmet cluster = [] := by
  rw [← List.isEmpty_iff, ← List.isEmpty_iff,
    Requirement.isEmpty_of_shows (set.recorded_shows.unmet cluster)]
  rfl

namespace Reconciler

/-- What is done in a reconciliation, in order: what is noted if every act is. -/
def acts (platform : Platform C W) (r : Reconciler C) (set : RequirementSet C W)
    (reuseAllowed : Bool) (world : W) : List (Act C) :=
  (r.reconcile platform.recorded set.recorded reuseAllowed ⟨world, []⟩).world.notes

/-- Taking notes changes nothing else. -/
theorem reconcile_recorded (platform : Platform C W) (r : Reconciler C) (set : RequirementSet C W)
    (reuseAllowed : Bool) (world : W) :
    let got := r.reconcile platform set reuseAllowed world
    r.reconcile platform.recorded set.recorded reuseAllowed ⟨world, []⟩ =
      ⟨got.outcome, got.reconciler, ⟨got.world, r.acts platform set reuseAllowed world⟩,
        got.printed⟩ := by
  intro got
  have hseen := reconcile_seen platform.recorded_shows set.recorded_shows.toRequirements r
    reuseAllowed ⟨world, []⟩
  rw [seen_noted] at hseen
  have hgot : got = _ := hseen.symm
  rw [hgot, acts]
  generalize r.reconcile platform.recorded set.recorded reuseAllowed ⟨world, []⟩ = recorded
  rcases recorded with ⟨outcome, reconciler, ⟨world', notes⟩, printed⟩
  simp only [Attempt.seen, seen_noted]
  rfl

/-! ### Mutations in order -/

/-- `UpToFault places acts fault?`: the requirements at the places are mutated, each once and in
order, up to the first whose mutation fails. -/
inductive UpToFault (places : List Nat) : List (Act C) → Option Fault → Prop where
  | all : UpToFault places (places.map fun place => .mutate place none) none
  | failed {before place left fault} (hplaces : places = before ++ place :: left) :
      UpToFault places
        (before.map (fun place => .mutate place none) ++ [.mutate place (some fault)]) (some fault)

theorem UpToFault.cons {places : List Nat} {acts : List (Act C)} {fault : Option Fault}
    (h : UpToFault places acts fault) (place : Nat) :
    UpToFault (place :: places) (.mutate place none :: acts) fault := by
  cases h with
  | all => exact .all
  | failed hplaces =>
    exact .failed ((congrArg (place :: ·) hplaces).trans (List.cons_append ..).symm)

theorem UpToFault.firstFault_eq {places : List Nat} {acts : List (Act C)} {fault : Option Fault}
    (h : UpToFault places acts fault) : Act.firstFault acts = fault := by
  have hnone (before : List Nat) :
      (before.map fun place => (.mutate place none : Act C)).findSome? Act.fault? = none := by
    rw [List.findSome?_eq_none_iff]
    intro act hmem
    obtain ⟨place, -, rfl⟩ := List.mem_map.mp hmem
    rfl
  cases h with
  | all => exact hnone places
  | failed =>
    rw [Act.firstFault, List.findSome?_append, hnone]
    rfl

theorem UpToFault.options_eq {places : List Nat} {acts : List (Act C)} {fault : Option Fault}
    (h : UpToFault places acts fault) : acts.filterMap Act.options? = [] := by
  cases h <;> simp [List.filterMap_map, Function.comp_def, Act.options?]

/-- Every mutation notes how it ended. -/
theorem makeMet_recorded {requirement : Requirement C W} {place : Nat} {cluster : C}
    {noted : Noted (Act C) W} {made : Mutation C (Noted (Act C) W)}
    (hmade : (requirement.recorded place).makeMet cluster noted = made) :
    made.world.notes = noted.notes ++ [.mutate place (Fault.of? made.result)] := by
  subst hmade
  rfl

/-- Mutations are made in order, up to the first that fails. Of those that are passed over because
they are not needed, no act is taken down. -/
theorem making_recorded {onlyUnmet : Bool} {entries : List (Requirement C W × Nat)}
    {cluster cluster' : C} {noted noted' : Noted (Act C) W} {result : Except Fault Unit}
    (h : Requirement.Making onlyUnmet (Requirement.recordAll entries) cluster noted result cluster'
      noted') :
    ∃ places acts, places.Sublist (entries.map Prod.snd) ∧
      (onlyUnmet = false → places = entries.map Prod.snd) ∧
      noted'.notes = noted.notes ++ acts ∧ UpToFault places acts (Fault.of? result) := by
  generalize hentries : Requirement.recordAll entries = requirements at h
  induction h generalizing entries with
  | done =>
    obtain rfl : entries = [] := List.map_eq_nil_iff.mp hentries
    exact ⟨[], [], .refl _, fun _ => rfl, (List.append_nil _).symm, .all⟩
  | passedOver honly _ _ ih =>
    obtain ⟨_, rest, rfl, -, hrest⟩ := List.map_eq_cons_iff.mp hentries
    obtain ⟨places, acts, hsublist, -, hnotes, hup⟩ := ih hrest
    refine ⟨places, acts, hsublist.cons _, ?_, hnotes, hup⟩
    intro hfalse
    cases honly.symm.trans hfalse
  | failed _ hmade hresult =>
    obtain ⟨⟨requirement, place⟩, rest, rfl, rfl, -⟩ := List.map_eq_cons_iff.mp hentries
    have hnotes := makeMet_recorded hmade
    rw [hresult] at hnotes
    exact ⟨place :: rest.map Prod.snd, _, .refl _, fun _ => rfl, hnotes,
      .failed (List.nil_append _).symm⟩
  | made _ hmade hresult _ ih =>
    obtain ⟨⟨requirement, place⟩, rest, rfl, rfl, hrest⟩ := List.map_eq_cons_iff.mp hentries
    have hfirst := makeMet_recorded hmade
    obtain ⟨places, acts, hsublist, hall, hnotes, hup⟩ := ih hrest
    refine ⟨place :: places, _, hsublist.cons_cons _, ?_, ?_, hup.cons place⟩
    · intro hfalse
      rw [hall hfalse]
      rfl
    · rw [hnotes, hfirst, hresult, List.append_assoc]
      rfl

/-- `Launching options count acts fault?`: a cluster is launched with the options, and if that
succeeds, some of so many requirements are mutated. -/
inductive Launching (options : LaunchOptions) (count : Nat) :
    List (Act C) → Option Fault → Prop where
  | notLaunched {fault} : Launching options count [.launch options (some fault)] (some fault)
  | launched {places later fault} (hplaces : places.Sublist (List.range count))
      (hlater : UpToFault places later fault) :
      Launching options count (.launch options none :: later) fault

theorem Launching.firstFault_eq {options : LaunchOptions} {count : Nat} {acts : List (Act C)}
    {fault : Option Fault} (h : Launching options count acts fault) :
    Act.firstFault acts = fault := by
  cases h with
  | notLaunched => rfl
  | launched _ hlater => exact hlater.firstFault_eq

theorem Launching.options_eq {options : LaunchOptions} {count : Nat} {acts : List (Act C)}
    {fault : Option Fault} (h : Launching options count acts fault) :
    acts.filterMap Act.options? = [options] := by
  cases h with
  | notLaunched => rfl
  | launched _ hlater => exact congrArg (options :: ·) hlater.options_eq

/-- A set of requirements launches once, and mutates what it launched. -/
theorem create_recorded (set : RequirementSet C W) (base : LaunchOptions)
    (noted : Noted (Act C) W) :
    let created := set.recorded.create base noted
    ∃ acts, created.world.notes = noted.notes ++ acts ∧
      Launching (set.configure base) set.requirements.length acts (Fault.of? created.result) := by
  obtain ⟨launched, hlaunched⟩ : ∃ launched,
    set.recorded.launcher (set.recorded.configure base) noted = launched := ⟨_, rfl⟩
  have hnotes : launched.world.notes =
      noted.notes ++ [.launch (set.configure base) (Fault.of? launched.result)] := by
    rw [← hlaunched, set.recorded_shows.configure]
    rfl
  simp only [RequirementSet.create, hlaunched]
  cases hresult : launched.result with
  | error fault =>
    rw [hresult] at hnotes
    exact ⟨_, hnotes, .notLaunched⟩
  | ok cluster =>
    rw [hresult] at hnotes
    obtain ⟨places, later, hsublist, -, hlater, hup⟩ :=
      making_recorded (Requirement.makeAllMet_making true
        (Requirement.recordAll set.requirements.zipIdx) cluster launched.world)
    rw [List.zipIdx_map_snd, ← List.range_eq_range'] at hsublist
    refine ⟨.launch (set.configure base) none :: later, ?_, .launched hsublist ?_⟩
    · rw [RequirementSet.recorded, hlater, hnotes, List.append_assoc]
      rfl
    · rw [RequirementSet.recorded, Fault.of?_map]
      exact hup

/-! ### What is found decides what is done -/

/-- What is answered once a cluster was brought about: the first fault, or else what does not
hold. -/
def verdict (acquisition : Acquisition) (fault : Option Fault)
    (remaining : List (Requirement C W)) : Except Fault Acquisition :=
  match fault with
  | some fault => .error fault
  | none =>
    if remaining.isEmpty then .ok acquisition
    else .error (.unmetAfterReconcile (Requirement.names remaining))

/-- What does not hold on the held cluster. -/
def unmetHeld (r : Reconciler C) (requirements : Requirements C W) : List (Requirement C W) :=
  r.cluster.elim [] requirements.unmet

variable {platform : Platform C W} {r : Reconciler C} {requirements : Requirements C W}
  {set : RequirementSet C W} {reuseAllowed : Bool} {world : W}

/-! ### The held cluster will do -/

theorem acts_of_met {cluster : C} (hheld : r.cluster = some cluster)
    (hmet : set.unmet cluster = []) : r.acts platform set true world = [] := by
  have hrecorded : set.recorded.toRequirements.unmet cluster = [] :=
    RequirementSet.recorded_unmet_eq_nil_iff.mpr hmet
  rw [acts, reconcile_of_met hheld hrecorded]

/-! ### The held cluster can be made to do -/

theorem reconcile_ends_of_satisfiable (platform : Platform C W) {cluster : C}
    (hheld : r.cluster = some cluster) (hunmet : requirements.unmet cluster ≠ [])
    (hsatisfiable : (requirements.satisfiable cluster).1 = true) (world : W) :
    let made := Requirement.makeAllMet false (requirements.satisfiable cluster).2 cluster world
    let got := r.reconcile platform requirements true world
    got.outcome =
        verdict .reconciled (Fault.of? made.result) (requirements.unmet made.cluster) ∧
      got.reconciler.cluster = some made.cluster ∧ got.reconciler.nextIndex = r.nextIndex ∧
      got.world = made.world ∧ got.printed = if r.verbose then made.printed else "" := by
  obtain ⟨made, hmade⟩ : ∃ made,
    Requirement.makeAllMet false (requirements.satisfiable cluster).2 cluster world = made :=
    ⟨_, rfl⟩
  simp only [hmade]
  rw [reconcile_of_tryReuse (tryReuse_of_satisfiable hheld hunmet hsatisfiable hmade)]
  cases hresult : made.result with
  | error fault => exact ⟨rfl, rfl, rfl, rfl, rfl⟩
  | ok _ =>
    by_cases hmet : requirements.unmet made.cluster = []
    · simp [hmet, verdict, Fault.of?]
    · simp [hmet, verdict, Fault.of?]

/-- The requirements that do not hold are mutated in place. -/
theorem acts_of_satisfiable (platform : Platform C W) {cluster : C}
    (hheld : r.cluster = some cluster) (hunmet : set.unmet cluster ≠ [])
    (hsatisfiable : set.satisfiable cluster = true) (world : W) :
    UpToFault (set.unmetPlaces cluster) (r.acts platform set true world)
      (Fault.of? (Requirement.makeAllMet false (set.unmet cluster) cluster world).result) := by
  have hseen := Requirement.makeAllMet_seen false (set.recorded_shows.unmet cluster) cluster
    ⟨world, []⟩
  obtain ⟨places, acts, -, hplaces, hnotes, hup⟩ :=
    making_recorded (Requirement.makeAllMet_making false
      (Requirement.recordAll
        (set.requirements.zipIdx.filter fun entry => !entry.1.isMet cluster)) cluster ⟨world, []⟩)
  rw [← set.recorded_unmet] at hnotes hup
  -- The notes begin empty, so what the mutations add to them is all that was done.
  have hacts : r.acts platform set true world = acts := by
    have hrecorded : set.recorded.toRequirements.unmet cluster ≠ [] :=
      mt RequirementSet.recorded_unmet_eq_nil_iff.mp hunmet
    obtain ⟨-, -, -, hworld, -⟩ := reconcile_ends_of_satisfiable platform.recorded hheld hrecorded
      ((set.recorded_shows.satisfiable cluster).trans hsatisfiable) ⟨world, []⟩
    rw [Reconciler.acts, hworld]
    exact hnotes
  have hresult :
      (Requirement.makeAllMet false (set.recorded.unmet cluster) cluster ⟨world, []⟩).result =
        (Requirement.makeAllMet false (set.unmet cluster) cluster world).result :=
    congrArg Mutation.result hseen
  rw [hplaces rfl, hresult] at hup
  rwa [hacts]

/-! ### The held cluster is replaced -/

theorem Unavailable.recorded (h : r.Unavailable set.toRequirements reuseAllowed) :
    r.Unavailable set.recorded.toRequirements reuseAllowed :=
  h.congr (fun _ => RequirementSet.recorded_unmet_eq_nil_iff) set.recorded_shows.satisfiable

/-- To retire a cluster is to stop it. -/
theorem retire_recorded (platform : Platform C W) (r : Reconciler C) (world : W) :
    r.retire platform.recorded ⟨world, []⟩ =
      ((r.retire platform world).1, ⟨(r.retire platform world).2, r.cluster.toList.map .stop⟩) := by
  cases hheld : r.cluster with
  | none =>
    rw [retire_of_none _ hheld, retire_of_none _ hheld]
    rfl
  | some cluster =>
    rw [retire_of_some _ hheld, retire_of_some _ hheld]
    rfl

theorem reconcile_ends_of_unavailable (platform : Platform C W)
    (hunavailable : r.Unavailable requirements reuseAllowed) (world : W) :
    let retired := r.retire platform world
    let created := requirements.create retired.1.launchBase retired.2
    let got := r.reconcile platform requirements reuseAllowed world
    got.outcome =
        verdict .created (Fault.of? created.result) (got.reconciler.unmetHeld requirements) ∧
      got.reconciler.cluster = created.result.toOption ∧
      got.reconciler.nextIndex = retired.1.nextIndex ∧ got.world = created.world := by
  intro retired created
  obtain ⟨hretired, hcreated⟩ : r.retire platform world = retired ∧
    requirements.create retired.1.launchBase retired.2 = created := ⟨rfl, rfl⟩
  have hnone : retired.1.cluster = none := r.retire_cluster platform world
  rw [reconcile_of_unavailable hunavailable]
  unfold createNext replace
  simp only [hretired, hcreated]
  cases hresult : created.result with
  | error fault => exact ⟨rfl, hnone, rfl, rfl⟩
  | ok cluster =>
    by_cases hmet : requirements.unmet cluster = []
    · simp [hmet, verdict, unmetHeld, Fault.of?, Except.toOption]
    · simp [hmet, verdict, unmetHeld, Fault.of?, Except.toOption]

/-- The held cluster is stopped, and then the next one is launched. -/
theorem acts_of_unavailable (platform : Platform C W)
    (hunavailable : r.Unavailable set.toRequirements reuseAllowed) (world : W) :
    let retired := r.retire platform world
    ∃ later, r.acts platform set reuseAllowed world = r.cluster.toList.map .stop ++ later ∧
      Launching (set.configure retired.1.launchBase) set.requirements.length later
        (Fault.of? (set.create retired.1.launchBase retired.2).result) := by
  intro retired
  -- By the time of the launch the notes say what was stopped.
  obtain ⟨later, hnotes, hlaunching⟩ := create_recorded set retired.1.launchBase
    ⟨retired.2, r.cluster.toList.map .stop⟩
  refine ⟨later, ?_, ?_⟩
  · obtain ⟨-, -, -, hworld⟩ :=
      reconcile_ends_of_unavailable platform.recorded hunavailable.recorded ⟨world, []⟩
    rw [retire_recorded] at hworld
    rw [acts, hworld]
    exact hnotes
  · have hseen := set.recorded_shows.create retired.1.launchBase
      ⟨retired.2, r.cluster.toList.map .stop⟩
    have hresult := congrArg (fun effect => Fault.of? effect.result) hseen
    simp only [Effect.seen, Fault.of?_map] at hresult
    rw [hresult] at hlaunching
    exact hlaunching

/-! ### What was done decides what is answered -/

/-- A reconciliation passes on the first fault of what it does. If there is none, it only depends
on whether the requirements hold in the end. -/
theorem outcome_of_acts (platform : Platform C W) (r : Reconciler C) (set : RequirementSet C W)
    (reuseAllowed : Bool) (world : W) :
    let got := r.reconcile platform set reuseAllowed world
    ∃ acquisition, got.outcome = verdict acquisition
      (Act.firstFault (r.acts platform set reuseAllowed world))
      (got.reconciler.unmetHeld set.toRequirements) := by
  rcases r.met_or_satisfiable_or_unavailable set.toRequirements reuseAllowed with
    ⟨cluster, rfl, hheld, hmet⟩ | ⟨cluster, rfl, hheld, hunmet, hsatisfiable⟩ | hunavailable
  · refine ⟨.reused, ?_⟩
    rw [reconcile_of_met hheld hmet, acts_of_met hheld hmet]
    simp [hheld, hmet, unmetHeld, verdict, Act.firstFault]
  · obtain ⟨houtcome, hcluster, -⟩ :=
      reconcile_ends_of_satisfiable platform hheld hunmet hsatisfiable world
    have hup := acts_of_satisfiable platform hheld hunmet hsatisfiable world
    refine ⟨.reconciled, ?_⟩
    rw [houtcome, hup.firstFault_eq, unmetHeld, hcluster]
    rfl
  · obtain ⟨houtcome, -⟩ := reconcile_ends_of_unavailable platform hunavailable world
    obtain ⟨later, hacts, hlaunching⟩ := acts_of_unavailable platform hunavailable world
    refine ⟨.created, ?_⟩
    rw [houtcome, hacts, Act.firstFault_stop, hlaunching.firstFault_eq]
    rfl

end Reconciler

end Testbed
