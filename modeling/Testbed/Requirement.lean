import Testbed.Cluster
import Testbed.Config
import Testbed.Table

/-!
# Requirements

A requirement is a predicate on clusters together with the mutation that makes it true.
Requirements are judged jointly: making one hold may break another, so whoever mutates a cluster
looks at the whole set again.

A fresh cluster comes from a launcher. Each requirement first shapes the options of the launch,
and what the launch could not bring about is mutated afterwards.

## Main definitions

* `LaunchOptions`, `Launcher` — how a fresh cluster is started
* `Requirement` — a predicate and its mutation
* `Requirements` — what is asked of a cluster as a whole
* `RequirementSet` — the usual kind: requirements and the launcher for them, with
  `RequirementSet.unmet`, `RequirementSet.create`
* `Requirement.numNodes` — a cluster of so many nodes
-/

namespace Testbed

/-! ### Launching -/

/-- How a fresh cluster is to be started. -/
structure LaunchOptions where
  auth : Credentials
  index : Nat
  dir : String
  numNodes : Nat := 1
  /-- How long requests to the nodes may take. -/
  httpTimeout : Duration := .ofSecs 60
  /-- Settings that requirements contribute. -/
  settings : Table String := []
  deriving DecidableEq, Repr

/-- What an operation that may fail leaves behind, and what it printed. -/
structure Effect (α W : Type) where
  result : Except Fault α
  world : W
  printed : String

/-- Starts the node processes of a fresh cluster. -/
abbrev Launcher (C W : Type) := LaunchOptions → W → Effect C W

/-! ### Requirements -/

/-- A mutation of a cluster: how it ended, and the cluster, the world and the output. -/
structure Mutation (C W : Type) where
  result : Except Fault Unit
  cluster : C
  world : W
  printed : String

/-- A predicate on clusters and the mutation that makes it true. -/
structure Requirement (C W : Type) where
  name : String
  isMet : C → Bool
  /-- Whether the mutation can be applied to a running cluster. -/
  canBeMet : C → Bool
  makeMet : C → W → Mutation C W
  /-- Shapes the launch of a fresh cluster. -/
  configure : LaunchOptions → LaunchOptions

variable {C W : Type}

/-- The cluster has exactly so many nodes. Only a fresh one can be given them. -/
def Requirement.numNodes (platform : Platform C W) (count : Nat) : Requirement C W where
  name := s!"NumNodes({count})"
  isMet cluster := (platform.nodes cluster).length = count
  canBeMet _ := false
  makeMet cluster world :=
    ⟨.error (.cluster s!"NumNodes({count}) requires a fresh cluster"), cluster, world, ""⟩
  configure options := { options with numNodes := count }

/-- Applies the mutations of requirements in order, up to the first that fails. With `onlyUnmet`
those that hold when their turn comes are passed over. -/
def Requirement.makeAllMet (onlyUnmet : Bool) : List (Requirement C W) → C → W → Mutation C W
  | [], cluster, world => ⟨.ok (), cluster, world, ""⟩
  | requirement :: rest, cluster, world =>
    if onlyUnmet && requirement.isMet cluster then makeAllMet onlyUnmet rest cluster world
    else
      let made := requirement.makeMet cluster world
      match made.result with
      | .error _ => made
      | .ok () =>
        let later := makeAllMet onlyUnmet rest made.cluster made.world
        { later with printed := made.printed ++ later.printed }

/-- The names of requirements, with commas between them. -/
def Requirement.names (requirements : List (Requirement C W)) : List String :=
  requirements.map Requirement.name

/-- What is asked of a cluster as a whole, and how a fresh cluster is had for it. -/
structure Requirements (C W : Type) where
  text : String
  /-- The requirements that do not hold. -/
  unmet : C → List (Requirement C W)
  /-- Whether all can be made to hold in place, and the ones to mutate for it. -/
  satisfiable : C → Bool × List (Requirement C W)
  /-- Starts a fresh cluster. -/
  create : LaunchOptions → W → Effect C W

/-! ### Sets of requirements -/

/-- Requirements, and the launcher of clusters for them. -/
structure RequirementSet (C W : Type) where
  requirements : List (Requirement C W)
  launcher : Launcher C W

namespace RequirementSet

/-- The requirements in brackets. -/
def text (set : RequirementSet C W) : String :=
  "[" ++ ", ".intercalate (Requirement.names set.requirements) ++ "]"

/-- The requirements that do not hold, in order. -/
def unmet (set : RequirementSet C W) (cluster : C) : List (Requirement C W) :=
  set.requirements.filter fun requirement => !requirement.isMet cluster

/-- Whether every requirement that does not hold can be made to in place. -/
def satisfiable (set : RequirementSet C W) (cluster : C) : Bool :=
  (set.unmet cluster).all fun requirement => requirement.canBeMet cluster

/-- The options of a launch, shaped by every requirement in turn. -/
def configure (set : RequirementSet C W) (base : LaunchOptions) : LaunchOptions :=
  set.requirements.foldl (fun options requirement => requirement.configure options) base

/-- Starts a fresh cluster and makes hold what the launch did not bring about. -/
def create (set : RequirementSet C W) (base : LaunchOptions) (world : W) : Effect C W :=
  let launched := set.launcher (set.configure base) world
  match launched.result with
  | .error fault => ⟨.error fault, launched.world, launched.printed⟩
  | .ok cluster =>
    let made := Requirement.makeAllMet true set.requirements cluster launched.world
    { result := made.result.map fun _ => made.cluster
      world := made.world
      printed := launched.printed ++ made.printed }

/-- What a set asks of a cluster: that each of its requirements holds. -/
def toRequirements (set : RequirementSet C W) : Requirements C W where
  text := set.text
  unmet := set.unmet
  satisfiable cluster := (set.satisfiable cluster, set.unmet cluster)
  create := set.create

instance : Coe (RequirementSet C W) (Requirements C W) := ⟨toRequirements⟩

theorem unmet_eq_nil_iff (set : RequirementSet C W) (cluster : C) :
    set.unmet cluster = [] ↔
      ∀ requirement ∈ set.requirements, requirement.isMet cluster = true := by
  simp [unmet, List.filter_eq_nil_iff]

end RequirementSet

end Testbed
