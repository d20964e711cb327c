import Testbed.Simulation.World

/-!
# Scripted requirements

Conditions on the settings and nodes of a simulated cluster, and acts that change them, make up
requirements.

## Main definitions

* `Simulation.Condition`, `Simulation.Act` — conditions and acts
* `Simulation.RequirementScript` — a requirement in terms of them
-/

namespace Testbed.Simulation

/-- A condition on a cluster. -/
inductive Condition where
  | always
  | never
  /-- A setting has a value. -/
  | equal (key value : String)
  | has (key : String)
  | lacks (key : String)
  | minNodes (count : Nat)
  deriving DecidableEq, Repr

/-- Whether a condition holds. -/
def Condition.holds (cluster : Cluster) : Condition → Bool
  | .always => true
  | .never => false
  | .equal key value => Table.find? key cluster.settings == some value
  | .has key => (Table.find? key cluster.settings).isSome
  | .lacks key => (Table.find? key cluster.settings).isNone
  | .minNodes count => count ≤ cluster.nodes.length

/-- A change of a cluster, or what else can happen on the way. -/
inductive Act where
  | set (key value : String)
  | unset (key : String)
  /-- Prints a line. -/
  | line (text : String)
  | event (text : String)
  | processes (count : Nat)
  /-- The last node leaves. -/
  | dropNode
  | fail (fault : Fault)

namespace Act

/-- Carries out an act. -/
def run (act : Act) (cluster : Cluster) (world : World) : Mutation Cluster World :=
  match act with
  | .set key value =>
    ⟨.ok (), { cluster with settings := Table.insert key value cluster.settings }, world, ""⟩
  | .unset key =>
    ⟨.ok (), { cluster with settings := Table.erase key cluster.settings }, world, ""⟩
  | .line text => ⟨.ok (), cluster, world, Output.line text⟩
  | .event text => ⟨.ok (), cluster, world.note text, ""⟩
  | .processes count => ⟨.ok (), { cluster with processes := some count }, world, ""⟩
  | .dropNode => ⟨.ok (), { cluster with nodes := cluster.nodes.dropLast }, world, ""⟩
  | .fail fault => ⟨.error fault, cluster, world, ""⟩

/-- Carries out acts in order, up to the first that fails. -/
def runAll : List Act → Cluster → World → Mutation Cluster World
  | [], cluster, world => ⟨.ok (), cluster, world, ""⟩
  | act :: rest, cluster, world =>
    let done := act.run cluster world
    match done.result with
    | .error _ => done
    | .ok () =>
      let later := runAll rest done.cluster done.world
      { later with printed := done.printed ++ later.printed }

end Act

/-- A requirement on simulated clusters. -/
inductive RequirementScript where
  /-- So many nodes. -/
  | nodes (count : Nat)
  /-- A setting that a launch brings about and nothing else. -/
  | launch (key value : String)
  /-- A condition and the acts that are to make it hold. -/
  | acts (name : String) (met canBeMet : Condition) (make : List Act)

/-- The requirement that a script describes. -/
def RequirementScript.toRequirement : RequirementScript → Requirement Cluster World
  | .nodes count => Requirement.numNodes platform count
  | .launch key value =>
    { name := s!"launch({key}={value})"
      isMet := fun cluster => Condition.holds cluster (.equal key value)
      canBeMet := fun _ => true
      makeMet := fun cluster world => ⟨.ok (), cluster, world, ""⟩
      configure := fun options =>
        { options with settings := Table.insert key value options.settings } }
  | .acts name met canBeMet make =>
    { name
      isMet := fun cluster => met.holds cluster
      canBeMet := fun cluster => canBeMet.holds cluster
      makeMet := fun cluster world => Act.runAll make cluster (world.note s!"make {name}")
      configure := id }

end Testbed.Simulation
