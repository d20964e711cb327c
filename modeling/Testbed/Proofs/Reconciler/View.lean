import Testbed.Proofs.Reconciler.Ways
import Testbed.Proofs.View

/-!
# Reconciling clusters that carry more than is seen

A reconciler looks at a cluster only through its requirements and the platform. If these show,
through a view, others that know nothing of what is carried beside, then so does every step of
the reconciler: what is seen of the reconciler and the world afterwards is what the others would
have made of what was seen before.

## Main definitions

* `Requirement.Shows`, `Requirements.Shows`, `Platform.Shows` — one that is another, seen through
  a view
* `RequirementSet.Shows` — the same of a set of requirements and its launcher
* `Reconciler.seen` — what is seen of a reconciler

## Main results

* `Reconciler.reconcile_seen`, `Reconciler.release_seen`, `Reconciler.drop_seen`
-/

namespace Testbed

variable {C' W' C W : Type}

/-! ### Requirements and platforms -/

/-- What is seen of what a mutation leaves. -/
def Mutation.seen (view : View C' W' C W) (made : Mutation C' W') : Mutation C W :=
  ⟨made.result, view.cluster made.cluster, view.world made.world, made.printed⟩

/-- What is seen of what a launch leaves. -/
def Effect.seen (view : View C' W' C W) (effect : Effect C' W') : Effect C W :=
  ⟨effect.result.map view.cluster, view.world effect.world, effect.printed⟩

/-- Seen through the view, the one requirement is the other. -/
structure Requirement.Shows (view : View C' W' C W) (requirement' : Requirement C' W')
    (requirement : Requirement C W) : Prop where
  name : requirement'.name = requirement.name
  isMet : ∀ cluster, requirement'.isMet cluster = requirement.isMet (view.cluster cluster)
  canBeMet : ∀ cluster,
    requirement'.canBeMet cluster = requirement.canBeMet (view.cluster cluster)
  makeMet : ∀ cluster world, (requirement'.makeMet cluster world).seen view =
    requirement.makeMet (view.cluster cluster) (view.world world)
  configure : requirement'.configure = requirement.configure

/-- Seen through the view, the same is asked of a cluster. -/
structure Requirements.Shows (view : View C' W' C W) (requirements' : Requirements C' W')
    (requirements : Requirements C W) : Prop where
  text : requirements'.text = requirements.text
  unmet : ∀ cluster, List.Forall₂ (Requirement.Shows view) (requirements'.unmet cluster)
    (requirements.unmet (view.cluster cluster))
  satisfiable : ∀ cluster,
    (requirements'.satisfiable cluster).1 = (requirements.satisfiable (view.cluster cluster)).1
  unsatisfied : ∀ cluster,
    List.Forall₂ (Requirement.Shows view) (requirements'.satisfiable cluster).2
      (requirements.satisfiable (view.cluster cluster)).2
  create : ∀ base world,
    (requirements'.create base world).seen view = requirements.create base (view.world world)

/-- Seen through the view, a cluster has the same place among the generations and the same
end. -/
structure Platform.Shows (view : View C' W' C W) (platform' : Platform C' W')
    (platform : Platform C W) : Prop where
  index : ∀ cluster, platform'.index cluster = platform.index (view.cluster cluster)
  processCount : ∀ cluster,
    platform'.processCount cluster = platform.processCount (view.cluster cluster)
  teardown : ∀ cluster world,
    (platform'.teardown cluster world).map view.cluster view.world =
      platform.teardown (view.cluster cluster) (view.world world)

section

variable {view : View C' W' C W}

theorem Requirement.through_shows (view : View C' W' C W) (requirement : Requirement C W) :
    Requirement.Shows view (requirement.through view) requirement where
  name := rfl
  isMet _ := rfl
  canBeMet _ := rfl
  makeMet _ _ := by simp [Requirement.through, Mutation.seen]
  configure := rfl

theorem Requirement.map_through_shows (view : View C' W' C W)
    (requirements : List (Requirement C W)) :
    List.Forall₂ (Requirement.Shows view) (requirements.map (Requirement.through view))
      requirements := by
  rw [List.forall₂_map_left_iff, List.forall₂_same]
  intro requirement _
  exact requirement.through_shows view

theorem Platform.through_shows (view : View C' W' C W) (platform : Platform C W) :
    Platform.Shows view (platform.through view) platform where
  index _ := rfl
  processCount _ := rfl
  teardown _ _ := by simp [Platform.through]

theorem Platform.Shows.nextIndex {platform' : Platform C' W'} {platform : Platform C W}
    (h : Platform.Shows view platform' platform) (cluster : C') :
    platform'.nextIndex cluster = platform.nextIndex (view.cluster cluster) := by
  rw [Platform.nextIndex, Platform.nextIndex, h.index, h.processCount]

theorem Requirement.names_of_shows {requirements' : List (Requirement C' W')}
    {requirements : List (Requirement C W)}
    (h : List.Forall₂ (Requirement.Shows view) requirements' requirements) :
    Requirement.names requirements' = Requirement.names requirements := by
  induction h with
  | nil => rfl
  | cons hd _ ih =>
    rw [names, List.map_cons, hd.name, ← names, ih]
    rfl

theorem Requirement.isEmpty_of_shows {requirements' : List (Requirement C' W')}
    {requirements : List (Requirement C W)}
    (h : List.Forall₂ (Requirement.Shows view) requirements' requirements) :
    requirements'.isEmpty = requirements.isEmpty := by
  cases h <;> rfl

theorem Requirement.makeAllMet_seen (onlyUnmet : Bool)
    {requirements' : List (Requirement C' W')} {requirements : List (Requirement C W)}
    (h : List.Forall₂ (Requirement.Shows view) requirements' requirements) (cluster : C')
    (world : W') :
    (Requirement.makeAllMet onlyUnmet requirements' cluster world).seen view =
      Requirement.makeAllMet onlyUnmet requirements (view.cluster cluster) (view.world world) := by
  induction h generalizing cluster world with
  | nil => rfl
  | @cons requirement' requirement _ _ hd _ ih =>
    have hmade := hd.makeMet cluster world
    rw [makeAllMet, makeAllMet, hd.isMet, ← hmade]
    generalize requirement'.makeMet cluster world = made
    split
    · exact ih cluster world
    · rcases made with ⟨_ | _, cluster, world, printed⟩
      · rfl
      · simp only [Mutation.seen, ← ih]

end

/-! ### Sets of requirements -/

section

variable {view : View C' W' C W}

/-- Seen through the view, the same clusters are started. -/
def Launcher.Shows (view : View C' W' C W) (launcher' : Launcher C' W') (launcher : Launcher C W) :
    Prop :=
  ∀ options world, (launcher' options world).seen view = launcher options (view.world world)

/-- Seen through the view, the requirements and the launcher are the other's. -/
structure RequirementSet.Shows (view : View C' W' C W) (set' : RequirementSet C' W')
    (set : RequirementSet C W) : Prop where
  requirements : List.Forall₂ (Requirement.Shows view) set'.requirements set.requirements
  launcher : Launcher.Shows view set'.launcher set.launcher

namespace RequirementSet

variable {set' : RequirementSet C' W'} {set : RequirementSet C W}

theorem Shows.unmet (h : Shows view set' set) (cluster : C') :
    List.Forall₂ (Requirement.Shows view) (set'.unmet cluster)
      (set.unmet (view.cluster cluster)) := by
  refine List.rel_filter ?_ h.requirements
  intro requirement' requirement hrequirement
  show (!requirement'.isMet cluster) = true ↔ (!requirement.isMet (view.cluster cluster)) = true
  rw [hrequirement.isMet]

theorem Shows.satisfiable (h : Shows view set' set) (cluster : C') :
    set'.satisfiable cluster = set.satisfiable (view.cluster cluster) := by
  have hunmet := h.unmet cluster
  rw [RequirementSet.satisfiable, RequirementSet.satisfiable]
  generalize set'.unmet cluster = unmet', set.unmet (view.cluster cluster) = unmet at hunmet
  induction hunmet with
  | nil => rfl
  | cons hd _ ih => rw [List.all_cons, List.all_cons, hd.canBeMet, ih]

theorem Shows.configure (h : Shows view set' set) (base : LaunchOptions) :
    set'.configure base = set.configure base := by
  have hrequirements := h.requirements
  rw [RequirementSet.configure, RequirementSet.configure]
  generalize set'.requirements = rest', set.requirements = rest at hrequirements
  induction hrequirements generalizing base with
  | nil => rfl
  | cons hd _ ih => rw [List.foldl_cons, List.foldl_cons, hd.configure, ih]

theorem Shows.create (h : Shows view set' set) (base : LaunchOptions) (world : W') :
    (set'.create base world).seen view = set.create base (view.world world) := by
  have hlaunched := h.launcher (set.configure base) world
  have hmade := Requirement.makeAllMet_seen true h.requirements
  rw [RequirementSet.create, RequirementSet.create, h.configure, ← hlaunched]
  rcases set'.launcher (set.configure base) world with ⟨_ | cluster, world, printed⟩
  · rfl
  · simp only [Effect.seen, Except.map, ← hmade]
    rcases Requirement.makeAllMet true set'.requirements cluster world with ⟨_ | _, _, _, _⟩ <;>
      rfl

theorem Shows.toRequirements (h : Shows view set' set) :
    Requirements.Shows view set'.toRequirements set.toRequirements where
  text := by
    show set'.text = set.text
    rw [text, text, Requirement.names_of_shows h.requirements]
  unmet := h.unmet
  satisfiable := h.satisfiable
  unsatisfied := h.unmet
  create := h.create

end RequirementSet

end

namespace Reconciler

/-! ### Reconcilers -/

/-- What is seen of a reconciler. -/
def seen (view : View C' W' C W) (r : Reconciler C') : Reconciler C where
  cluster := r.cluster.map view.cluster
  nextIndex := r.nextIndex
  armed := r.armed
  auth := r.auth
  clusterDir := r.clusterDir
  httpTimeout := r.httpTimeout
  verbose := r.verbose
  last := r.last

/-- What is seen of an attempt at a cluster. -/
def Attempt.seen {α : Type} (view : View C' W' C W) (attempt : Attempt α C' W') :
    Attempt α C W :=
  ⟨attempt.outcome, attempt.reconciler.seen view, view.world attempt.world, attempt.printed⟩

/-- What is seen of a reconciler and its world. -/
def seenPair (view : View C' W' C W) (state : Reconciler C' × W') : Reconciler C × W :=
  state.map (seen view) view.world

/-- A reconciler has nothing to do with notes that are taken in the world. -/
theorem seen_noted {E : Type} (r : Reconciler C) :
    r.seen (Noted.view : View C (Noted E W) C W) = r := by
  rcases r with ⟨_ | _, _⟩ <;> rfl

variable {view : View C' W' C W} {platform' : Platform C' W'} {platform : Platform C W}
  {requirements' : Requirements C' W'} {requirements : Requirements C W}

theorem tryReuse_seen (hrequirements : Requirements.Shows view requirements' requirements)
    (r : Reconciler C') (world : W') :
    (r.tryReuse requirements' world).seen view =
      (r.seen view).tryReuse requirements (view.world world) := by
  have hempty := fun cluster => Requirement.isEmpty_of_shows (hrequirements.unmet cluster)
  have hnames := fun cluster => Requirement.names_of_shows (hrequirements.unmet cluster)
  unfold tryReuse
  cases hheld : r.cluster with
  | none => simp [Attempt.seen, seen, hheld]
  | some cluster =>
    have hmade := Requirement.makeAllMet_seen false (hrequirements.unsatisfied cluster) cluster
      world
    simp only [seen, hheld, Option.map_some, hempty, hrequirements.satisfiable, ← hmade]
    split
    · simp [Attempt.seen, seen, hheld]
    · split
      · simp [Attempt.seen, seen, hheld]
      · generalize Requirement.makeAllMet false (requirements'.satisfiable cluster).2 cluster
          world = made
        simp only [Attempt.seen, seen, Mutation.seen, Option.map_some, hnames]
        rfl

theorem retire_seen (hplatform : Platform.Shows view platform' platform) (r : Reconciler C')
    (world : W') :
    seenPair view (r.retire platform' world) = (r.seen view).retire platform (view.world world) := by
  have hseen : (r.seen view).cluster = r.cluster.map view.cluster := rfl
  cases hheld : r.cluster with
  | none =>
    rw [hheld, Option.map_none] at hseen
    rw [retire_of_none platform' hheld, retire_of_none platform hseen]
    rfl
  | some cluster =>
    rw [hheld, Option.map_some] at hseen
    rw [retire_of_some platform' hheld, retire_of_some platform hseen, ← hplatform.teardown,
      Prod.map_fst, ← hplatform.nextIndex]
    rfl

theorem replace_seen (hplatform : Platform.Shows view platform' platform)
    (hrequirements : Requirements.Shows view requirements' requirements) (r : Reconciler C')
    (world : W') :
    (r.replace platform' requirements' world).seen view =
      (r.seen view).replace platform requirements (view.world world) := by
  have hretired := retire_seen hplatform r world
  have hempty := fun cluster => Requirement.isEmpty_of_shows (hrequirements.unmet cluster)
  have hnames := fun cluster => Requirement.names_of_shows (hrequirements.unmet cluster)
  rw [replace, replace, ← hretired]
  generalize r.retire platform' world = retired
  have hbase : (seenPair view retired).1.launchBase = retired.1.launchBase := rfl
  have hworld : (seenPair view retired).2 = view.world retired.2 := rfl
  simp only [hbase, hworld, ← hrequirements.create, hrequirements.text]
  generalize requirements'.create retired.1.launchBase retired.2 = created
  rcases created with ⟨_ | cluster, world, printed⟩
  · rfl
  · simp only [Effect.seen, Except.map, ← hempty, ← hnames, ← hplatform.index]
    split <;> rfl

theorem createNext_seen (hplatform : Platform.Shows view platform' platform)
    (hrequirements : Requirements.Shows view requirements' requirements) (r : Reconciler C')
    (world : W') :
    (r.createNext platform' requirements' world).seen view =
      (r.seen view).createNext platform requirements (view.world world) := by
  have hreplaced := replace_seen hplatform hrequirements r world
  rw [createNext, createNext, ← hreplaced]
  generalize r.replace platform' requirements' world = replaced
  rcases replaced with ⟨_ | _, reconciler, world, printed⟩ <;> rfl

/-- A reconciliation shows the one of what is seen. -/
theorem reconcile_seen (hplatform : Platform.Shows view platform' platform)
    (hrequirements : Requirements.Shows view requirements' requirements) (r : Reconciler C')
    (reuseAllowed : Bool) (world : W') :
    (r.reconcile platform' requirements' reuseAllowed world).seen view =
      (r.seen view).reconcile platform requirements reuseAllowed (view.world world) := by
  cases reuseAllowed with
  | false => exact createNext_seen hplatform hrequirements r world
  | true =>
    have hkept := tryReuse_seen hrequirements r world
    rw [reconcile_of_tryReuse rfl, reconcile_of_tryReuse hkept.symm]
    generalize r.tryReuse requirements' world = kept
    rcases kept with ⟨_ | acquisition | fault, reconciler, world, printed⟩
    · exact createNext_seen hplatform hrequirements reconciler world
    · have hindex : platform'.index = fun cluster => platform.index (view.cluster cluster) := by
        funext cluster
        exact hplatform.index cluster
      simp only [Attempt.seen, seen, hindex, Option.map_map, Function.comp_def]
    · rfl

theorem release_seen (hplatform : Platform.Shows view platform' platform) (r : Reconciler C')
    (world : W') :
    seenPair view (r.release platform' world) =
      (r.seen view).release platform (view.world world) := by
  have hseen : (r.seen view).cluster = r.cluster.map view.cluster := rfl
  cases hheld : r.cluster with
  | none =>
    rw [hheld, Option.map_none] at hseen
    rw [release_of_none platform' hheld, release_of_none platform hseen]
    rfl
  | some cluster =>
    rw [hheld, Option.map_some] at hseen
    rw [release_of_some platform' hheld, release_of_some platform hseen, ← hplatform.teardown]
    rfl

theorem drop_seen (hplatform : Platform.Shows view platform' platform) (r : Reconciler C')
    (world : W') :
    view.world (r.drop platform' world) = (r.seen view).drop platform (view.world world) := by
  have hreleased := congrArg Prod.snd (release_seen hplatform r world)
  rw [drop, drop, ← hreleased]
  show _ = if r.armed.isSome then _ else _
  split <;> rfl

end Reconciler

end Testbed
