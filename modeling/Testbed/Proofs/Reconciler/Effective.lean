import Testbed.Proofs.Reconciler.Acts
import Testbed.Proofs.Reconciler.Cleanup

/-!
# The internal fault is a broken requirement

A reconciliation that did all it set out to do, and finds that something does not hold even so,
answers with the one fault that is internal. It is the fault of a requirement: of one that succeeds
and does not hold, or that breaks another. Where no requirement does either, everything holds
whenever no mutation fails.

In place the mutations are those of the requirements that did not hold on entry, all of them,
whatever has come to hold in between. On a fresh cluster each is looked at when its turn comes. One
invariant serves both: every requirement holds already, or its turn is still to come.

## Main definitions

* `RequirementSet.Effective` — requirements that keep what they promise, and do not break others
* `RequirementSet.NeverInternal` — no fault of their own passes for the internal one

## Main results

* `RequirementSet.Effective.making` — after mutations without fault
* `Reconciler.reconcile_not_internal`, `Reconciler.passes_on_first_fault`
-/

namespace Testbed

variable {C W : Type}

namespace RequirementSet

/-- A mutation that succeeds leaves its own requirement met, and the others that were. -/
structure Effective (set : RequirementSet C W) : Prop where
  own : ∀ requirement ∈ set.requirements, ∀ cluster world,
    (requirement.makeMet cluster world).result = .ok () →
      requirement.isMet (requirement.makeMet cluster world).cluster = true
  others : ∀ requirement ∈ set.requirements, ∀ other ∈ set.requirements, ∀ cluster world,
    (requirement.makeMet cluster world).result = .ok () → other.isMet cluster = true →
      other.isMet (requirement.makeMet cluster world).cluster = true

/-- Neither a mutation nor the launcher fails with an internal fault. -/
structure NeverInternal (set : RequirementSet C W) : Prop where
  makeMet : ∀ requirement ∈ set.requirements, ∀ cluster world names,
    (requirement.makeMet cluster world).result ≠ .error (.unmetAfterReconcile names)
  launcher : ∀ options world names,
    (set.launcher options world).result ≠ .error (.unmetAfterReconcile names)

variable {set : RequirementSet C W} {requirements : List (Requirement C W)} {onlyUnmet : Bool}

/-! ### Mutations -/

/-- After mutations without fault everything holds that held before, or whose turn came. -/
theorem Effective.making (h : set.Effective) {cluster cluster' : C} {world world' : W}
    {result : Except Fault Unit}
    (hmaking : Requirement.Making onlyUnmet requirements cluster world result cluster' world')
    (hset : ∀ requirement ∈ requirements, requirement ∈ set.requirements) (hok : result = .ok ())
    {other : Requirement C W} (hother : other ∈ set.requirements)
    (hdue : other ∈ requirements ∨ other.isMet cluster = true) : other.isMet cluster' = true := by
  induction hmaking with
  | done => exact hdue.resolve_left List.not_mem_nil
  | passedOver _ hmet _ ih =>
    refine ih (List.forall_mem_cons.mp hset).2 hok ?_
    rcases hdue with hmem | hmet'
    · rcases List.mem_cons.mp hmem with rfl | hmem
      · exact .inr hmet
      · exact .inl hmem
    · exact .inr hmet'
  | failed => cases hok
  | made _ hmade hresult _ ih =>
    subst hmade
    obtain ⟨hfirst, hrest⟩ := List.forall_mem_cons.mp hset
    refine ih hrest hok ?_
    rcases hdue with hmem | hmet
    · rcases List.mem_cons.mp hmem with rfl | hmem
      · exact .inr (h.own _ hfirst _ _ hresult)
      · exact .inl hmem
    · exact .inr (h.others _ hfirst _ hother _ _ hresult hmet)

/-- The fault of mutations in a row is the fault of one of them. -/
theorem NeverInternal.making (h : set.NeverInternal) {cluster cluster' : C} {world world' : W}
    {result : Except Fault Unit}
    (hmaking : Requirement.Making onlyUnmet requirements cluster world result cluster' world')
    (hset : ∀ requirement ∈ requirements, requirement ∈ set.requirements) (names : List String) :
    result ≠ .error (.unmetAfterReconcile names) := by
  induction hmaking with
  | done => exact nofun
  | passedOver _ _ _ ih => exact ih (List.forall_mem_cons.mp hset).2
  | failed _ hmade hresult =>
    subst hmade
    rw [← hresult]
    exact h.makeMet _ (List.forall_mem_cons.mp hset).1 _ _ names
  | made _ _ _ _ ih => exact ih (List.forall_mem_cons.mp hset).2

theorem mem_of_mem_unmet {requirement : Requirement C W} {cluster : C}
    (h : requirement ∈ set.unmet cluster) : requirement ∈ set.requirements :=
  (List.mem_filter.mp h).1

/-! ### In place, and on a fresh cluster -/

/-- If what does not hold is mutated without fault, everything holds. -/
theorem Effective.unmet_in_place (h : set.Effective) {cluster : C} {world : W}
    (hok : (Requirement.makeAllMet false (set.unmet cluster) cluster world).result = .ok ()) :
    set.unmet (Requirement.makeAllMet false (set.unmet cluster) cluster world).cluster = [] := by
  rw [unmet_eq_nil_iff]
  intro requirement hmem
  refine h.making (Requirement.makeAllMet_making ..) (fun _ => mem_of_mem_unmet) hok hmem ?_
  by_cases hmet : requirement.isMet cluster = true
  · exact .inr hmet
  · exact .inl (List.mem_filter.mpr ⟨hmem, by simpa using hmet⟩)

/-- On a cluster that was created everything holds. -/
theorem Effective.unmet_created (h : set.Effective) {base : LaunchOptions} {world : W} {cluster : C}
    (hok : (set.create base world).result = .ok cluster) : set.unmet cluster = [] := by
  have hcreation := set.create_creation base world
  rw [hok] at hcreation
  generalize set.givesUp base world = gaveUp, (set.create base world).world = world' at hcreation
  cases hcreation with
  | created _ _ hmade hdone =>
    subst hmade
    rw [unmet_eq_nil_iff]
    intro requirement hmem
    exact h.making (Requirement.makeAllMet_making ..) (fun _ hmem => hmem) hdone hmem (.inl hmem)

theorem NeverInternal.create (h : set.NeverInternal) (base : LaunchOptions) (world : W)
    (names : List String) :
    (set.create base world).result ≠ .error (.unmetAfterReconcile names) := by
  have hcreation := set.create_creation base world
  generalize set.givesUp base world = gaveUp, (set.create base world).result = result,
    (set.create base world).world = world' at hcreation
  rintro rfl
  cases hcreation with
  | notLaunched hlaunched hresult =>
    subst hlaunched
    exact h.launcher _ _ _ hresult
  | givenUp _ _ hmade hfault =>
    subst hmade
    exact h.making (Requirement.makeAllMet_making ..) (fun _ hmem => hmem) _ hfault

end RequirementSet

namespace Reconciler

variable {set : RequirementSet C W}

/-- Each way that ends with the internal fault needs a requirement that broke its promise. -/
theorem reconcile_not_internal (heffective : set.Effective) (hnever : set.NeverInternal)
    (platform : Platform C W) (r : Reconciler C) (reuseAllowed : Bool) (world : W)
    (names : List String) :
    (r.reconcile platform set reuseAllowed world).outcome ≠
      .error (.unmetAfterReconcile names) := by
  have hway := reconcile_way platform r set reuseAllowed world
  generalize r.reconcile platform set reuseAllowed world = got at hway
  rcases got with ⟨outcome, reconciler, world', printed⟩
  rintro rfl
  cases hway with
  | stuck _ _ _ _ hmade hfault =>
    subst hmade
    rcases hfault with hfault | ⟨hok, hunmet, -⟩
    · exact hnever.making (Requirement.makeAllMet_making ..)
        (fun _ => RequirementSet.mem_of_mem_unmet) _ hfault
    · exact hunmet (heffective.unmet_in_place hok)
  | notCreated _ hcreated hresult =>
    subst hcreated
    exact hnever.create _ _ _ hresult
  | createdUnmet _ hcreated hresult hunmet =>
    subst hcreated
    exact hunmet (heffective.unmet_created hresult)

/-- **The internal fault is a broken requirement.** With requirements that keep what they promise
and do not break one another, no reconciliation ends with the internal fault, whatever is held and
whoever launches. It succeeds with no fault in what it did, or passes on the first. -/
theorem passes_on_first_fault (set : RequirementSet C W) (heffective : set.Effective)
    (hnever : set.NeverInternal) (platform : Platform C W) (r : Reconciler C)
    (reuseAllowed : Bool) (world : W) :
    let got := r.reconcile platform set reuseAllowed world
    let acts := r.acts platform set reuseAllowed world
    r.reconcile platform.recorded set.recorded reuseAllowed ⟨world, []⟩ =
        ⟨got.outcome, got.reconciler, ⟨got.world, acts⟩, got.printed⟩ ∧
      (∀ names, got.outcome ≠ .error (.unmetAfterReconcile names)) ∧
      ((∃ acquisition, got.outcome = .ok acquisition ∧ Act.firstFault acts = none) ∨
        ∃ fault, got.outcome = .error fault ∧ Act.firstFault acts = some fault) := by
  intro got acts
  have hnot : ∀ names, got.outcome ≠ .error (.unmetAfterReconcile names) :=
    reconcile_not_internal heffective hnever platform r reuseAllowed world
  refine ⟨reconcile_recorded platform r set reuseAllowed world, hnot, ?_⟩
  obtain ⟨acquisition, houtcome⟩ := outcome_of_acts platform r set reuseAllowed world
  have houtcome : got.outcome = verdict acquisition (Act.firstFault acts) _ := houtcome
  cases hfault : Act.firstFault acts with
  | some fault =>
    rw [hfault] at houtcome
    exact .inr ⟨fault, houtcome, rfl⟩
  | none =>
    -- With something left unmet, the outcome would be the internal fault.
    rw [hfault, verdict] at houtcome
    split at houtcome
    · exact .inl ⟨acquisition, houtcome, rfl⟩
    · exact absurd houtcome (hnot _)

/-! ### A sample

Clusters that are an index and a size, which can only grow. -/

/-- The cluster has a size at least. -/
def sampleAtLeast (size : Nat) : Requirement (Nat × Nat) Unit where
  name := "AtLeast"
  isMet cluster := size ≤ cluster.2
  canBeMet _ := true
  makeMet cluster world := ⟨.ok (), (cluster.1, max cluster.2 size), world, ""⟩
  configure options := options

/-- No cluster is ever launched. -/
def sampleGrowing : RequirementSet (Nat × Nat) Unit :=
  ⟨[sampleAtLeast 3, sampleAtLeast 2], fun _ world => ⟨.error (.cluster "no room"), world, ""⟩⟩

theorem sampleGrowing_size {requirement : Requirement (Nat × Nat) Unit}
    (h : requirement ∈ sampleGrowing.requirements) : ∃ size, requirement = sampleAtLeast size := by
  rcases List.mem_cons.mp h with rfl | h
  · exact ⟨3, rfl⟩
  · exact ⟨2, List.mem_singleton.mp h⟩

theorem sampleGrowing_effective : sampleGrowing.Effective where
  own := by
    intro requirement hmem cluster world _
    obtain ⟨size, rfl⟩ := sampleGrowing_size hmem
    exact decide_eq_true (Nat.le_max_right cluster.2 size)
  others := by
    intro requirement hmem other hother cluster world _ hmet
    obtain ⟨size, rfl⟩ := sampleGrowing_size hmem
    obtain ⟨size', rfl⟩ := sampleGrowing_size hother
    simp only [sampleAtLeast, decide_eq_true_eq] at hmet ⊢
    omega

theorem sampleGrowing_neverInternal : sampleGrowing.NeverInternal where
  makeMet := by
    intro requirement hmem cluster world names
    obtain ⟨size, rfl⟩ := sampleGrowing_size hmem
    exact nofun
  launcher _ _ _ := nofun

/-- Both requirements are unmet on entry, so both are mutated, though the second holds by then. -/
theorem sample_passes_on_first_fault :
    sampleGrowing.Effective ∧ sampleGrowing.NeverInternal ∧
      let r := adopt .plain samplePlatform (0, 1)
      let got := r.reconcile samplePlatform sampleGrowing true ()
      let acts := r.acts samplePlatform sampleGrowing true ()
      (r.reconcile samplePlatform.recorded sampleGrowing.recorded true ⟨(), []⟩ =
          ⟨got.outcome, got.reconciler, ⟨got.world, acts⟩, got.printed⟩ ∧
        (∀ names, got.outcome ≠ .error (.unmetAfterReconcile names)) ∧
        ((∃ acquisition, got.outcome = .ok acquisition ∧ Act.firstFault acts = none) ∨
          ∃ fault, got.outcome = .error fault ∧ Act.firstFault acts = some fault)) ∧
      acts = [.mutate 0 none, .mutate 1 none] :=
  ⟨sampleGrowing_effective, sampleGrowing_neverInternal,
    passes_on_first_fault sampleGrowing sampleGrowing_effective sampleGrowing_neverInternal
      samplePlatform (adopt .plain samplePlatform (0, 1)) true (),
    rfl⟩

end Reconciler

end Testbed
