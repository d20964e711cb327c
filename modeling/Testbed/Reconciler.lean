import Testbed.Output.Capture
import Testbed.Requirement

/-!
# Reconciling a cluster with requirements

A reconciler holds the running cluster between testsets. For each set of requirements it hands
the cluster out as it is, mutates it in place until the requirements hold, or tears it down and
starts the next generation.

It also owns the cleanup: a hook is armed for the generation of the cluster that it holds, and a
reconciler that is dropped while its hook is armed tears the cluster down.

## Main definitions

* `Reconciler` — the cluster, the next index, the hook
* `Reconciler.reconcile` — a cluster on which requirements hold
* `Reconciler.release`, `Reconciler.drop` — the end of a cluster

## Main results

* `Reconciler.retire_of_none`, `Reconciler.release_of_none` — without a cluster there is nothing
  to stop
-/

namespace Testbed

/-- How a cluster was come by. -/
inductive Acquisition where
  /-- The cluster satisfied every requirement already. -/
  | reused
  /-- The cluster was mutated in place. -/
  | reconciled
  /-- The next generation was started. -/
  | created
  deriving DecidableEq, Repr

/-- The name of a way to come by a cluster. -/
def Acquisition.text : Acquisition → String
  | .reused => "Reused"
  | .reconciled => "Reconciled"
  | .created => "Created"

/-- The holder of the running cluster. -/
structure Reconciler (C : Type) where
  cluster : Option C
  /-- The generation to start next. -/
  nextIndex : Nat
  /-- The generation that the cleanup hook is armed for. -/
  armed : Option Nat
  auth : Credentials
  clusterDir : String
  httpTimeout : Duration
  /-- Output of mutations in place is shown. -/
  verbose : Bool
  /-- How the last successful call came by its cluster. -/
  last : Option Acquisition

namespace Reconciler

variable {C W : Type}

/-! ### Starting out -/

/-- A reconciler without a cluster. -/
def ofConfig (config : Config) : Reconciler C where
  cluster := none
  nextIndex := 0
  armed := none
  auth := config.auth
  clusterDir := config.clusterDir
  httpTimeout := config.httpTimeout
  verbose := config.verbose
  last := none

/-- A reconciler that takes over a running cluster. -/
def adopt (config : Config) (platform : Platform C W) (cluster : C) : Reconciler C :=
  let fresh : Reconciler C := ofConfig config
  { fresh with
    cluster := some cluster
    nextIndex := platform.index cluster
    armed := some (platform.index cluster) }

/-! ### Reusing the held cluster -/

/-- What became of the attempt to keep the held cluster. -/
inductive Reuse where
  /-- There is none, or what is unmet cannot be made to hold in place. -/
  | unavailable
  | acquired (acquisition : Acquisition)
  | failed (fault : Fault)

/-- An attempt at a cluster, and the reconciler, the world and the output after it. -/
structure Attempt (α C W : Type) where
  outcome : α
  reconciler : Reconciler C
  world : W
  printed : String

/-- Keeps the held cluster if its requirements hold or can be made to. The mutations are those
of the requirements that do not hold at the start; afterwards the whole set is looked at. -/
def tryReuse (r : Reconciler C) (requirements : Requirements C W) (world : W) :
    Attempt Reuse C W :=
  match r.cluster with
  | none => ⟨.unavailable, r, world, ""⟩
  | some cluster =>
    if (requirements.unmet cluster).isEmpty then ⟨.acquired .reused, r, world, ""⟩
    else if !(requirements.satisfiable cluster).1 then ⟨.unavailable, r, world, ""⟩
    else
      let unsatisfied := (requirements.satisfiable cluster).2
      let made := Requirement.makeAllMet false unsatisfied cluster world
      let remaining := requirements.unmet made.cluster
      { outcome :=
          match made.result with
          | .error fault => .failed fault
          | .ok () =>
            if remaining.isEmpty then .acquired .reconciled
            else .failed (.unmetAfterReconcile (Requirement.names remaining))
        reconciler := { r with cluster := some made.cluster }
        world := made.world
        printed := if r.verbose then made.printed else "" }

/-! ### Starting the next generation -/

/-- Tears down the held cluster. The next generation starts past all of its processes. -/
def retire (platform : Platform C W) (r : Reconciler C) (world : W) : Reconciler C × W :=
  match r.cluster with
  | none => (r, world)
  | some cluster =>
    let stopped := platform.teardown cluster world
    ({ r with
        cluster := none
        armed := none
        nextIndex := platform.nextIndex stopped.1 },
      stopped.2)

theorem retire_of_none (platform : Platform C W) {r : Reconciler C} (h : r.cluster = none)
    (world : W) : r.retire platform world = (r, world) := by
  simp [retire, h]

theorem retire_of_some (platform : Platform C W) {r : Reconciler C} {cluster : C}
    (h : r.cluster = some cluster) (world : W) :
    r.retire platform world =
      ({ r with
          cluster := none
          armed := none
          nextIndex := platform.nextIndex (platform.teardown cluster world).1 },
        (platform.teardown cluster world).2) := by
  simp [retire, h]

/-- The line between the start of a cluster and the tests on it. -/
def rule : String :=
  String.ofList (List.replicate 80 '=')

/-- What a launch starts from. -/
def launchBase (r : Reconciler C) : LaunchOptions :=
  { auth := r.auth, index := r.nextIndex, dir := r.clusterDir, httpTimeout := r.httpTimeout }

/-- Tears down the held cluster and starts the next generation. A cluster on which requirements
do not hold is kept, with its hook armed, though it is not handed out. -/
def replace (platform : Platform C W) (r : Reconciler C) (requirements : Requirements C W)
    (world : W) : Attempt (Except Fault Unit) C W :=
  let retired := r.retire platform world
  let announced := Output.line ("Starting cluster to satisfy requirements: " ++ requirements.text)
  let created := requirements.create retired.1.launchBase retired.2
  match created.result with
  | .error fault => ⟨.error fault, retired.1, created.world, announced ++ created.printed⟩
  | .ok cluster =>
    let r := { retired.1 with cluster := some cluster, armed := some (platform.index cluster) }
    let unmet := requirements.unmet cluster
    if unmet.isEmpty then
      ⟨.ok (), r, created.world, announced ++ created.printed ++ Output.line s!"\n{rule}\n"⟩
    else
      ⟨.error (.unmetAfterReconcile (Requirement.names unmet)), r, created.world,
        announced ++ created.printed⟩

/-! ### A cluster for a set of requirements -/

/-- Replaces the cluster and notes that it was created. -/
def createNext (platform : Platform C W) (r : Reconciler C) (requirements : Requirements C W)
    (world : W) : Attempt (Except Fault Acquisition) C W :=
  let replaced := r.replace platform requirements world
  match replaced.outcome with
  | .error fault => ⟨.error fault, replaced.reconciler, replaced.world, replaced.printed⟩
  | .ok () =>
    ⟨.ok .created, { replaced.reconciler with last := some .created }, replaced.world,
      replaced.printed⟩

/-- Finds or starts a cluster on which requirements hold, and leaves it with the reconciler.
Without `reuseAllowed` the held cluster is always replaced. -/
def reconcile (platform : Platform C W) (r : Reconciler C) (requirements : Requirements C W)
    (reuseAllowed : Bool) (world : W) : Attempt (Except Fault Acquisition) C W :=
  if !reuseAllowed then r.createNext platform requirements world
  else
    let kept := r.tryReuse requirements world
    match kept.outcome with
    | .unavailable => kept.reconciler.createNext platform requirements kept.world
    | .failed fault => ⟨.error fault, kept.reconciler, kept.world, kept.printed⟩
    | .acquired acquisition =>
      { outcome := .ok acquisition
        reconciler :=
          { kept.reconciler with
            last := some acquisition
            armed := kept.reconciler.cluster.map platform.index }
        world := kept.world
        printed := kept.printed }

/-! ### The end of a cluster -/

/-- Tears down the held cluster and disarms its hook. -/
def release (platform : Platform C W) (r : Reconciler C) (world : W) : Reconciler C × W :=
  match r.cluster with
  | none => (r, world)
  | some cluster =>
    ({ r with cluster := none, armed := none }, (platform.teardown cluster world).2)

/-- What becomes of a reconciler that nobody needs any more. -/
def drop (platform : Platform C W) (r : Reconciler C) (world : W) : W :=
  if r.armed.isSome then (r.release platform world).2 else world

theorem release_of_none (platform : Platform C W) {r : Reconciler C} (h : r.cluster = none)
    (world : W) : r.release platform world = (r, world) := by
  simp [release, h]

theorem release_of_some (platform : Platform C W) {r : Reconciler C} {cluster : C}
    (h : r.cluster = some cluster) (world : W) :
    r.release platform world =
      ({ r with cluster := none, armed := none }, (platform.teardown cluster world).2) := by
  simp [release, h]

end Reconciler

end Testbed
