import Testbed.Reconciler

/-!
# The ways of a reconciliation

A reconciliation goes one of six ways. The held cluster is handed out as it is; or it is mutated
in place, and will then do or not; or it is replaced, and the next one cannot be started, or is
started and will do or not. `Reconciler.Way` says for each what it takes, what comes of it, and
which reconciler and world it leaves.

Whatever is to be kept by every reconciliation is shown way by way, so no proof below opens
`reconcile` again. The same goes for a row of mutations, of which each is passed over, or fails, or
succeeds.

## What is deliberately absent

The output of a call is not part of its way. Nothing that a reconciler holds depends on it.

## Main definitions

* `Requirement.Making` — how mutations in a row go
* `Reconciler.Way` — the six ways

## Main results

* `Reconciler.reconcile_way` — every reconciliation goes one of them
* `Requirement.makeAllMet_keeps` — what every mutation keeps, a sequence of them keeps
-/

namespace Testbed

variable {C W : Type}

/-! ### Mutations in a row -/

namespace Requirement

/-- `Making onlyUnmet requirements cluster world result cluster' world'`: applied in order to
`cluster` and `world`, the mutations can come to `result`, and leave `cluster'` and `world'`. -/
inductive Making (onlyUnmet : Bool) :
    List (Requirement C W) → C → W → Except Fault Unit → C → W → Prop where
  | done {cluster world} : Making onlyUnmet [] cluster world (.ok ()) cluster world
  /-- The requirement holds already. -/
  | passedOver {requirement rest cluster world result cluster' world'}
      (honly : onlyUnmet = true) (hmet : requirement.isMet cluster = true)
      (hrest : Making onlyUnmet rest cluster world result cluster' world') :
      Making onlyUnmet (requirement :: rest) cluster world result cluster' world'
  /-- The mutation fails, and none is applied after it. -/
  | failed {requirement rest cluster world made fault}
      (hneeded : (onlyUnmet && requirement.isMet cluster) = false)
      (hmade : requirement.makeMet cluster world = made) (hresult : made.result = .error fault) :
      Making onlyUnmet (requirement :: rest) cluster world (.error fault) made.cluster made.world
  | made {requirement rest cluster world made result cluster' world'}
      (hneeded : (onlyUnmet && requirement.isMet cluster) = false)
      (hmade : requirement.makeMet cluster world = made) (hresult : made.result = .ok ())
      (hrest : Making onlyUnmet rest made.cluster made.world result cluster' world') :
      Making onlyUnmet (requirement :: rest) cluster world result cluster' world'

theorem makeAllMet_making (onlyUnmet : Bool) (requirements : List (Requirement C W)) (cluster : C)
    (world : W) :
    let made := makeAllMet onlyUnmet requirements cluster world
    Making onlyUnmet requirements cluster world made.result made.cluster made.world := by
  induction requirements generalizing cluster world with
  | nil => exact .done
  | cons requirement rest ih =>
    rw [makeAllMet]
    split
    · rename_i hneedless
      obtain ⟨honly, hmet⟩ := Bool.and_eq_true_iff.mp hneedless
      exact .passedOver honly hmet (ih cluster world)
    · rename_i hneeded
      rw [Bool.not_eq_true] at hneeded
      obtain ⟨made, hmade⟩ : ∃ made, requirement.makeMet cluster world = made := ⟨_, rfl⟩
      simp only [hmade]
      cases hresult : made.result with
      | error fault =>
        simp only [hresult]
        exact .failed hneeded hmade hresult
      | ok _ => exact .made hneeded hmade hresult (ih made.cluster made.world)

/-- What every mutation keeps, a sequence of them keeps, also if it stops early. -/
theorem makeAllMet_keeps {P : C → W → Prop} (onlyUnmet : Bool)
    {requirements : List (Requirement C W)}
    (hkeeps : ∀ requirement ∈ requirements, ∀ cluster world, P cluster world →
      P (requirement.makeMet cluster world).cluster (requirement.makeMet cluster world).world)
    {cluster : C} {world : W} (h : P cluster world) :
    let made := makeAllMet onlyUnmet requirements cluster world
    P made.cluster made.world := by
  intro made
  have hmaking : Making onlyUnmet requirements cluster world made.result made.cluster made.world :=
    makeAllMet_making ..
  generalize made.result = result, made.cluster = cluster', made.world = world' at hmaking ⊢
  induction hmaking with
  | done => exact h
  | passedOver _ _ _ ih => exact ih (List.forall_mem_cons.mp hkeeps).2 h
  | failed _ hmade _ =>
    subst hmade
    exact (List.forall_mem_cons.mp hkeeps).1 _ _ h
  | made _ hmade _ _ ih =>
    subst hmade
    obtain ⟨hfirst, hrest⟩ := List.forall_mem_cons.mp hkeeps
    exact ih hrest (hfirst _ _ h)

end Requirement

namespace Reconciler

/-- The held cluster will not do as it is and cannot be made to in place, or there is none, or it
is not to be asked. -/
inductive Unavailable (r : Reconciler C) (requirements : Requirements C W) : Bool → Prop where
  | notAllowed : Unavailable r requirements false
  | notHeld {reuseAllowed} (hheld : r.cluster = none) : Unavailable r requirements reuseAllowed
  | notSatisfiable {reuseAllowed cluster} (hheld : r.cluster = some cluster)
      (hunmet : requirements.unmet cluster ≠ [])
      (hsatisfiable : (requirements.satisfiable cluster).1 = false) :
      Unavailable r requirements reuseAllowed

/-- It depends only on which clusters will do, and which can be made to. -/
theorem Unavailable.congr {W' : Type} {r : Reconciler C} {requirements : Requirements C W}
    {requirements' : Requirements C W'} {reuseAllowed : Bool}
    (h : r.Unavailable requirements reuseAllowed)
    (hunmet : ∀ cluster, requirements'.unmet cluster = [] ↔ requirements.unmet cluster = [])
    (hsatisfiable : ∀ cluster,
      (requirements'.satisfiable cluster).1 = (requirements.satisfiable cluster).1) :
    r.Unavailable requirements' reuseAllowed := by
  cases h with
  | notAllowed => exact .notAllowed
  | notHeld hheld => exact .notHeld hheld
  | @notSatisfiable _ cluster hheld hne hfalse =>
    exact .notSatisfiable hheld (mt (hunmet cluster).mp hne) ((hsatisfiable cluster).trans hfalse)

/-- `r.Way platform requirements reuseAllowed world outcome r' world'`: from `r` and `world` a
reconciliation can come to `outcome`, and leave `r'` and `world'`. -/
inductive Way (platform : Platform C W) (r : Reconciler C) (requirements : Requirements C W)
    (reuseAllowed : Bool) (world : W) :
    Except Fault Acquisition → Reconciler C → W → Prop where
  /-- The held cluster will do as it is. -/
  | reused {cluster} (hallowed : reuseAllowed = true) (hheld : r.cluster = some cluster)
      (hmet : requirements.unmet cluster = []) :
      Way platform r requirements reuseAllowed world (.ok .reused)
        { r with last := some .reused, armed := some (platform.index cluster) } world
  /-- The held cluster was made to do in place. -/
  | reconciled {cluster made} (hallowed : reuseAllowed = true) (hheld : r.cluster = some cluster)
      (hunmet : requirements.unmet cluster ≠ [])
      (hsatisfiable : (requirements.satisfiable cluster).1 = true)
      (hmade : Requirement.makeAllMet false (requirements.satisfiable cluster).2 cluster world =
        made)
      (hresult : made.result = .ok ()) (hmet : requirements.unmet made.cluster = []) :
      Way platform r requirements reuseAllowed world (.ok .reconciled)
        { r with
          cluster := some made.cluster
          last := some .reconciled
          armed := some (platform.index made.cluster) } made.world
  /-- The held cluster could not be made to do in place. It is kept. -/
  | stuck {cluster made fault} (hallowed : reuseAllowed = true) (hheld : r.cluster = some cluster)
      (hunmet : requirements.unmet cluster ≠ [])
      (hsatisfiable : (requirements.satisfiable cluster).1 = true)
      (hmade : Requirement.makeAllMet false (requirements.satisfiable cluster).2 cluster world =
        made)
      (hfault : made.result = .error fault ∨
        made.result = .ok () ∧ requirements.unmet made.cluster ≠ [] ∧
          fault = .unmetAfterReconcile (Requirement.names (requirements.unmet made.cluster))) :
      Way platform r requirements reuseAllowed world (.error fault)
        { r with cluster := some made.cluster } made.world
  /-- The next cluster could not be started. -/
  | notCreated {created fault} (hunavailable : r.Unavailable requirements reuseAllowed)
      (hcreated : requirements.create (r.retire platform world).1.launchBase
        (r.retire platform world).2 = created)
      (hresult : created.result = .error fault) :
      Way platform r requirements reuseAllowed world (.error fault)
        (r.retire platform world).1 created.world
  /-- The next cluster was started, and will not do. It is kept. -/
  | createdUnmet {created cluster} (hunavailable : r.Unavailable requirements reuseAllowed)
      (hcreated : requirements.create (r.retire platform world).1.launchBase
        (r.retire platform world).2 = created)
      (hresult : created.result = .ok cluster) (hunmet : requirements.unmet cluster ≠ []) :
      Way platform r requirements reuseAllowed world
        (.error (.unmetAfterReconcile (Requirement.names (requirements.unmet cluster))))
        { (r.retire platform world).1 with
          cluster := some cluster
          armed := some (platform.index cluster) } created.world
  /-- The next cluster was started, and will do. -/
  | created {created cluster} (hunavailable : r.Unavailable requirements reuseAllowed)
      (hcreated : requirements.create (r.retire platform world).1.launchBase
        (r.retire platform world).2 = created)
      (hresult : created.result = .ok cluster) (hmet : requirements.unmet cluster = []) :
      Way platform r requirements reuseAllowed world (.ok .created)
        { (r.retire platform world).1 with
          cluster := some cluster
          armed := some (platform.index cluster)
          last := some .created } created.world

variable {platform : Platform C W} {r : Reconciler C} {requirements : Requirements C W}
  {reuseAllowed : Bool} {world : W}

theorem retire_cluster (platform : Platform C W) (r : Reconciler C) (world : W) :
    (r.retire platform world).1.cluster = none := by
  cases hheld : r.cluster with
  | none => rw [retire_of_none platform hheld, hheld]
  | some cluster => rw [retire_of_some platform hheld]

theorem createNext_way (hunavailable : r.Unavailable requirements reuseAllowed) :
    let got := r.createNext platform requirements world
    r.Way platform requirements reuseAllowed world got.outcome got.reconciler got.world := by
  obtain ⟨created, hcreated⟩ : ∃ created,
    requirements.create (r.retire platform world).1.launchBase (r.retire platform world).2 =
      created := ⟨_, rfl⟩
  unfold createNext replace
  simp only [hcreated]
  cases hresult : created.result with
  | error fault => exact .notCreated hunavailable hcreated hresult
  | ok cluster =>
    by_cases hmet : requirements.unmet cluster = []
    · simp only [hmet, List.isEmpty_nil, if_true]
      exact .created hunavailable hcreated hresult hmet
    · simp only [List.isEmpty_iff, hmet, if_false]
      exact .createdUnmet hunavailable hcreated hresult hmet

/-! ### The attempt to keep the held cluster -/

theorem tryReuse_of_none (hheld : r.cluster = none) :
    r.tryReuse requirements world = ⟨.unavailable, r, world, ""⟩ := by
  rw [tryReuse, hheld]

theorem tryReuse_of_met {cluster : C} (hheld : r.cluster = some cluster)
    (hmet : requirements.unmet cluster = []) :
    r.tryReuse requirements world = ⟨.acquired .reused, r, world, ""⟩ := by
  rw [tryReuse, hheld]
  exact if_pos (by rw [hmet]; rfl)

theorem tryReuse_of_notSatisfiable {cluster : C} (hheld : r.cluster = some cluster)
    (hunmet : requirements.unmet cluster ≠ [])
    (hsatisfiable : (requirements.satisfiable cluster).1 = false) :
    r.tryReuse requirements world = ⟨.unavailable, r, world, ""⟩ := by
  rw [tryReuse, hheld]
  refine (if_neg (by rwa [List.isEmpty_iff])).trans (if_pos ?_)
  rw [hsatisfiable]
  rfl

theorem tryReuse_of_satisfiable {cluster : C} {made : Mutation C W}
    (hheld : r.cluster = some cluster) (hunmet : requirements.unmet cluster ≠ [])
    (hsatisfiable : (requirements.satisfiable cluster).1 = true)
    (hmade : Requirement.makeAllMet false (requirements.satisfiable cluster).2 cluster world =
      made) :
    r.tryReuse requirements world =
      { outcome :=
          match made.result with
          | .error fault => .failed fault
          | .ok () =>
            if (requirements.unmet made.cluster).isEmpty then .acquired .reconciled
            else .failed (.unmetAfterReconcile
              (Requirement.names (requirements.unmet made.cluster)))
        reconciler := { r with cluster := some made.cluster }
        world := made.world
        printed := if r.verbose then made.printed else "" } := by
  subst hmade
  rw [tryReuse, hheld]
  refine (if_neg (by rwa [List.isEmpty_iff])).trans (if_neg ?_)
  rw [hsatisfiable]
  exact Bool.false_ne_true

/-- What a reconciliation makes of an attempt to keep the held cluster. -/
theorem reconcile_of_tryReuse {kept : Attempt Reuse C W}
    (hkept : r.tryReuse requirements world = kept) :
    r.reconcile platform requirements true world =
      match kept.outcome with
      | .unavailable => kept.reconciler.createNext platform requirements kept.world
      | .failed fault => ⟨.error fault, kept.reconciler, kept.world, kept.printed⟩
      | .acquired acquisition =>
        { outcome := .ok acquisition
          reconciler :=
            { kept.reconciler with
              last := some acquisition
              armed := kept.reconciler.cluster.map platform.index }
          world := kept.world
          printed := kept.printed } := by
  subst hkept
  rfl

/-! ### Every reconciliation goes one of the ways -/

theorem reconcile_way_of_satisfiable {cluster : C} (hheld : r.cluster = some cluster)
    (hunmet : requirements.unmet cluster ≠ [])
    (hsatisfiable : (requirements.satisfiable cluster).1 = true) :
    let got := r.reconcile platform requirements true world
    r.Way platform requirements true world got.outcome got.reconciler got.world := by
  obtain ⟨made, hmade⟩ : ∃ made,
    Requirement.makeAllMet false (requirements.satisfiable cluster).2 cluster world = made :=
    ⟨_, rfl⟩
  rw [reconcile_of_tryReuse (tryReuse_of_satisfiable hheld hunmet hsatisfiable hmade)]
  cases hresult : made.result with
  | error fault => exact .stuck rfl hheld hunmet hsatisfiable hmade (.inl hresult)
  | ok _ =>
    by_cases hmet : requirements.unmet made.cluster = []
    · simp only [hmet, List.isEmpty_nil, if_true]
      exact .reconciled rfl hheld hunmet hsatisfiable hmade hresult hmet
    · simp only [List.isEmpty_iff, hmet, if_false]
      exact .stuck rfl hheld hunmet hsatisfiable hmade (.inr ⟨hresult, hmet, rfl⟩)

/-- The held cluster will do, or can be made to in place, or it is replaced. -/
theorem met_or_satisfiable_or_unavailable (r : Reconciler C) (requirements : Requirements C W)
    (reuseAllowed : Bool) :
    (∃ cluster, reuseAllowed = true ∧ r.cluster = some cluster ∧
        requirements.unmet cluster = []) ∨
      (∃ cluster, reuseAllowed = true ∧ r.cluster = some cluster ∧
        requirements.unmet cluster ≠ [] ∧ (requirements.satisfiable cluster).1 = true) ∨
      r.Unavailable requirements reuseAllowed := by
  cases reuseAllowed with
  | false => exact .inr (.inr .notAllowed)
  | true =>
    cases hheld : r.cluster with
    | none => exact .inr (.inr (.notHeld hheld))
    | some cluster =>
      by_cases hmet : requirements.unmet cluster = []
      · exact .inl ⟨cluster, rfl, rfl, hmet⟩
      · cases hsatisfiable : (requirements.satisfiable cluster).1 with
        | false => exact .inr (.inr (.notSatisfiable hheld hmet hsatisfiable))
        | true => exact .inr (.inl ⟨cluster, rfl, rfl, hmet, hsatisfiable⟩)

theorem reconcile_of_met {cluster : C} (hheld : r.cluster = some cluster)
    (hmet : requirements.unmet cluster = []) :
    r.reconcile platform requirements true world =
      ⟨.ok .reused, { r with last := some .reused, armed := some (platform.index cluster) }, world,
        ""⟩ := by
  rw [reconcile_of_tryReuse (tryReuse_of_met hheld hmet)]
  simp only [hheld, Option.map_some]

theorem reconcile_of_unavailable (h : r.Unavailable requirements reuseAllowed) :
    r.reconcile platform requirements reuseAllowed world =
      r.createNext platform requirements world := by
  cases reuseAllowed with
  | false => rfl
  | true =>
    cases h with
    | notHeld hheld => rw [reconcile_of_tryReuse (tryReuse_of_none hheld)]
    | notSatisfiable hheld hunmet hsatisfiable =>
      rw [reconcile_of_tryReuse (tryReuse_of_notSatisfiable hheld hunmet hsatisfiable)]

theorem reconcile_way (platform : Platform C W) (r : Reconciler C)
    (requirements : Requirements C W) (reuseAllowed : Bool) (world : W) :
    let got := r.reconcile platform requirements reuseAllowed world
    r.Way platform requirements reuseAllowed world got.outcome got.reconciler got.world := by
  rcases r.met_or_satisfiable_or_unavailable requirements reuseAllowed with
    ⟨cluster, rfl, hheld, hmet⟩ | ⟨cluster, rfl, hheld, hunmet, hsatisfiable⟩ | hunavailable
  · rw [reconcile_of_met hheld hmet]
    exact .reused rfl hheld hmet
  · exact reconcile_way_of_satisfiable hheld hunmet hsatisfiable
  · rw [reconcile_of_unavailable hunavailable]
    exact createNext_way hunavailable

end Reconciler

end Testbed
