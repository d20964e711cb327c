import Testbed.Campaign.Summary
import Testbed.Reconciler
import Testbed.Testset.Runner

/-!
# Campaigns

A campaign runs testsets one after the other under one seed. For each it gets a cluster from the
reconciler, runs the tests that the filter lets through, and adds the outcome to the summary. A
cluster that cannot be had is an outcome too: every test is left out. Only an internal fault is
passed on, and then nothing is recorded.

## Main definitions

* `Campaign` — the settings, the reconciler and the summary
* `Campaign.start`, `Campaign.runTestset`, `Campaign.finish` — its course
* `Campaign.acquire`, `Campaign.goOn` — the two halves of a testset
* `Campaign.runOn`, `Campaign.giveUp` — a testset with a cluster, and one without
-/

namespace Testbed

/-- The reason why tests are left out when no cluster can be had. -/
def clusterUnavailable : String := "cluster could not be acquired"

/-- Testsets run one after the other. -/
structure Campaign (C W : Type) where
  config : Config
  reconciler : Reconciler C
  launcher : Launcher C W
  seed : Seed
  /-- A testset may have the cluster of the one before it. -/
  reuseAllowed : Bool
  /-- Only tests whose name contains this are run. -/
  filter : Option String
  summary : Summary
  /-- The place of a panic that no phase has reported. -/
  panicSite : Option String

namespace Campaign

variable {T C W : Type}

/-- A campaign before its first testset, and the line that tells its seed. -/
def start (config : Config) (launcher : Launcher C W) (seed : Seed) (reuseAllowed : Bool)
    (filter : Option String) : Campaign C W × String :=
  ({ config
     reconciler := .ofConfig config
     launcher
     seed
     reuseAllowed
     filter
     summary := {}
     panicSite := none },
   Output.line s!"Using seed {seed.text}")

/-- Whether one text occurs in another. -/
def occursIn (part : List Char) : List Char → Bool
  | [] => part.isEmpty
  | c :: rest => part.isPrefixOf (c :: rest) || occursIn part rest

/-- Whether the filter lets a test through. -/
def selects (campaign : Campaign C W) (name : String) : Bool :=
  match campaign.filter with
  | none => true
  | some part => occursIn part.toList name.toList

/-- The registered tests that the filter lets through. -/
def selected (campaign : Campaign C W) (suite : Testset T C W) : List String :=
  suite.testNames.filter campaign.selects

/-- What a testset comes to in a campaign. -/
structure Attempt (C W : Type) where
  result : Except Fault Outcome
  campaign : Campaign C W
  world : W
  printed : String

/-- The outcome when no cluster can be had. -/
def unavailable (suite : Testset T C W) (names : List String) (fault : Fault) : Outcome :=
  { executed := 0
    errors := [⟨suite.typeName ++ ".cluster", .raised (.fault fault)⟩]
    notRan := Outcome.leaveOut names clusterUnavailable }

/-- What stays the same during the run of a testset in a campaign. -/
def runner (campaign : Campaign C W) (suite : Testset T C W) : Runner T C W where
  config := campaign.config
  suite
  chain := .ofSeed campaign.seed
  intercept := true

/-- The state from which the run of a testset starts. `entropy` is the state of the generator, of
which nothing is seen. -/
def opening (campaign : Campaign C W) (suite : Testset T C W) (entropy : Generator)
    (cluster : C) (world : W) : RunState T C W where
  stage := ⟨suite.create cluster, cluster, world⟩
  generator := entropy
  panicSite := campaign.panicSite

/-- Runs the tests of a testset on the cluster that the reconciler holds for it, and records what
they come to. -/
def runOn (campaign : Campaign C W) (suite : Testset T C W) (progress : Option Progress)
    (entropy : Generator) (cluster : C) (world : W) : Attempt C W :=
  let run :=
    (campaign.runner suite).run (campaign.selected suite) progress
      (campaign.opening suite entropy cluster world)
  { result := .ok run.outcome
    campaign :=
      { campaign with
        reconciler := { campaign.reconciler with cluster := some run.state.stage.cluster }
        summary := campaign.summary.record run.outcome
        panicSite := run.state.panicSite }
    world := run.state.stage.world
    printed := run.printed }

/-- What a fault on the way to a cluster comes to: an internal one is passed on, any other is
recorded as an outcome in which every test is left out. -/
def giveUp (campaign : Campaign C W) (suite : Testset T C W) (fault : Fault) (world : W) :
    Attempt C W :=
  if fault.isInternal then ⟨.error fault, campaign, world, ""⟩
  else
    let outcome := unavailable suite (campaign.selected suite) fault
    { result := .ok outcome
      campaign := { campaign with summary := campaign.summary.record outcome }
      world
      printed := "" }

/-- What becomes of a testset, once the reconciler was asked for a cluster. -/
def goOn (campaign : Campaign C W) (suite : Testset T C W) (progress : Option Progress)
    (entropy : Generator) (got : Reconciler.Attempt (Except Fault Acquisition) C W) :
    Attempt C W :=
  let campaign := { campaign with reconciler := got.reconciler }
  let attempt :=
    match got.outcome, got.reconciler.cluster with
    | .ok _, some cluster => campaign.runOn suite progress entropy cluster got.world
    | .ok _, none =>
      campaign.giveUp suite (.cluster "no cluster after reconciliation") got.world
    | .error fault, _ => campaign.giveUp suite fault got.world
  { attempt with printed := got.printed ++ attempt.printed }

/-- What a testset asks of a cluster, and the launcher for it. -/
def asks (campaign : Campaign C W) (suite : Testset T C W) : RequirementSet C W :=
  ⟨suite.requirements, campaign.launcher⟩

/-- Asks the reconciler for a cluster for a testset. -/
def acquire (platform : Platform C W) (campaign : Campaign C W) (suite : Testset T C W)
    (world : W) : Reconciler.Attempt (Except Fault Acquisition) C W :=
  campaign.reconciler.reconcile platform (campaign.asks suite) campaign.reuseAllowed world

/-- Gets a cluster for a testset and runs its tests. -/
def runTestset (platform : Platform C W) (campaign : Campaign C W) (suite : Testset T C W)
    (progress : Option Progress) (entropy : Generator) (world : W) : Attempt C W :=
  campaign.goOn suite progress entropy (acquire platform campaign suite world)

section goOn

variable {campaign : Campaign C W} {suite : Testset T C W} {progress : Option Progress}
  {entropy : Generator} {got : Reconciler.Attempt (Except Fault Acquisition) C W}

theorem goOn_of_error {fault : Fault} (hfault : got.outcome = .error fault) :
    campaign.goOn suite progress entropy got =
      let attempt := giveUp { campaign with reconciler := got.reconciler } suite fault got.world
      { attempt with printed := got.printed ++ attempt.printed } := by
  simp only [goOn, hfault]

theorem goOn_of_none {acquisition : Acquisition} (hok : got.outcome = .ok acquisition)
    (hheld : got.reconciler.cluster = none) :
    campaign.goOn suite progress entropy got =
      let attempt := giveUp { campaign with reconciler := got.reconciler } suite
        (.cluster "no cluster after reconciliation") got.world
      { attempt with printed := got.printed ++ attempt.printed } := by
  simp only [goOn, hok, hheld]

theorem goOn_of_some {acquisition : Acquisition} {cluster : C}
    (hok : got.outcome = .ok acquisition) (hheld : got.reconciler.cluster = some cluster) :
    campaign.goOn suite progress entropy got =
      let attempt := runOn { campaign with reconciler := got.reconciler } suite progress entropy
        cluster got.world
      { attempt with printed := got.printed ++ attempt.printed } := by
  simp only [goOn, hok, hheld]

end goOn

/-- The summary as text. -/
def summaryText (campaign : Campaign C W) : String :=
  campaign.summary.text campaign.config.useColors

/-- Releases the cluster; what is left is the summary. -/
def finish (platform : Platform C W) (campaign : Campaign C W) (world : W) : Summary × W :=
  let released := campaign.reconciler.release platform world
  (campaign.summary, released.1.drop platform released.2)

end Campaign

end Testbed
