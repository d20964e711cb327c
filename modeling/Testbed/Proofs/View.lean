import Mathlib.Data.List.Forall2
import Testbed.Testset.Runner

/-!
# Looking at clusters and worlds that carry more than is seen

To say what a run did, its clusters and its world are given something more to carry: marks, a
ledger, notes. A `View` says what is left of them when that is looked away from, and how a change
of what is seen goes back. Everything that acts on clusters and worlds acts through a view on
those that carry more, and leaves alone what it does not see.

## What is deliberately absent

There is no law that putting back what was seen changes nothing. What is carried beside is never
compared, only read at the end of a run, so one law in each component is enough.

## Main definitions

* `View` — what is seen, and how it is put back
* `Noted` — a world with notes, and the view that looks away from them
* `Platform.through`, `Requirement.through`, `Body.through` — acting through a view
* `Stage.seen`, `Ending.seen`, `RunState.seen` — what is seen of the states of a run
* `Body.Shows`, `Testset.Shows` — one body or testset that is another, seen through a view

## Main results

* `Runner.run_seen` — a run of what shows a testset is a run of the testset
-/

namespace Testbed

/-- What is seen of clusters `C'` and worlds `W'` that carry more, and how it is put back. -/
structure View (C' W' C W : Type) where
  cluster : C' → C
  world : W' → W
  putCluster : C → C' → C'
  putWorld : W → W' → W'
  cluster_put : ∀ c c', cluster (putCluster c c') = c
  world_put : ∀ w w', world (putWorld w w') = w

attribute [simp] View.cluster_put View.world_put

variable {E T C' W' C W : Type}

/-! ### Worlds with notes -/

/-- A world, and the notes that were taken in it. -/
structure Noted (E W : Type) where
  world : W
  notes : List E

/-- Looks away from the notes. -/
def Noted.view : View C (Noted E W) C W where
  cluster cluster := cluster
  world noted := noted.world
  putCluster cluster _ := cluster
  putWorld world noted := { noted with world }
  cluster_put _ _ := rfl
  world_put _ _ := rfl

/-! ### Acting through a view -/

/-- A node that is reached in the world that is seen. -/
def Node.through (view : View C' W' C W) (node : Node W) : Node W' where
  index := node.index
  url := node.url
  auth := node.auth
  timeout := node.timeout
  send request world :=
    let sent := node.send request (view.world world)
    (sent.1, view.putWorld sent.2 world)

/-- A kind of cluster, where more is carried. -/
def Platform.through (view : View C' W' C W) (platform : Platform C W) : Platform C' W' where
  nodes cluster := (platform.nodes (view.cluster cluster)).map (Node.through view)
  auth cluster := platform.auth (view.cluster cluster)
  index cluster := platform.index (view.cluster cluster)
  processCount cluster := platform.processCount (view.cluster cluster)
  teardown cluster world :=
    let stopped := platform.teardown (view.cluster cluster) (view.world world)
    (view.putCluster stopped.1 cluster, view.putWorld stopped.2 world)
  deleteBucket name cluster world :=
    let deleted := platform.deleteBucket name (view.cluster cluster) (view.world world)
    (deleted.1, view.putCluster deleted.2.1 cluster, view.putWorld deleted.2.2 world)

/-- A requirement, where more is carried. -/
def Requirement.through (view : View C' W' C W) (requirement : Requirement C W) :
    Requirement C' W' where
  name := requirement.name
  isMet cluster := requirement.isMet (view.cluster cluster)
  canBeMet cluster := requirement.canBeMet (view.cluster cluster)
  makeMet cluster world :=
    let made := requirement.makeMet (view.cluster cluster) (view.world world)
    { result := made.result
      cluster := view.putCluster made.cluster cluster
      world := view.putWorld made.world world
      printed := made.printed }
  configure := requirement.configure

/-- What is seen of a stage. -/
def Stage.seen (view : View C' W' C W) (stage : Stage T C' W') : Stage T C W :=
  ⟨stage.testset, view.cluster stage.cluster, view.world stage.world⟩

/-- What is seen of what a body leaves behind. -/
def Ending.seen (view : View C' W' C W) (ending : Ending T C' W') : Ending T C W where
  verdict := ending.verdict
  stage := ending.stage.seen view
  generator := ending.generator
  printed := ending.printed
  elapsed := ending.elapsed
  raisedAt := ending.raisedAt

/-- A body, where more is carried. -/
def Body.through (view : View C' W' C W) (body : Body T C W) : Body T C' W' :=
  fun config generator stage =>
    let ending := body config generator (stage.seen view)
    { verdict := ending.verdict
      stage :=
        { testset := ending.stage.testset
          cluster := view.putCluster ending.stage.cluster stage.cluster
          world := view.putWorld ending.stage.world stage.world }
      generator := ending.generator
      printed := ending.printed
      elapsed := ending.elapsed
      raisedAt := ending.raisedAt }

/-! ### One testset that is another, seen through a view -/

/-- Seen through the view, the one body is the other. -/
def Body.Shows (view : View C' W' C W) (body' : Body T C' W') (body : Body T C W) : Prop :=
  ∀ config generator stage,
    (body' config generator stage).seen view = body config generator (stage.seen view)

/-- Seen through the view, the one test is the other. -/
def TestCase.Shows (view : View C' W' C W) (test' : TestCase T C' W') (test : TestCase T C W) :
    Prop :=
  test'.name = test.name ∧ Body.Shows view test'.body test.body

/-- Seen through the view, all that a run has to do with in the one testset is that in the
other. -/
structure Testset.Shows (view : View C' W' C W) (suite' : Testset T C' W')
    (suite : Testset T C W) : Prop where
  name : suite'.name = suite.name
  tests : List.Forall₂ (TestCase.Shows view) suite'.tests suite.tests
  setup : Body.Shows view suite'.setup suite.setup
  teardown : Body.Shows view suite'.teardown suite.teardown
  testTeardown : Body.Shows view suite'.testTeardown suite.testTeardown

theorem Body.through_shows (view : View C' W' C W) (body : Body T C W) :
    Body.Shows view (body.through view) body := by
  intro config generator stage
  simp [Body.through, Ending.seen, Stage.seen]

/-- A testset, where more is carried. -/
def Testset.through (view : View C' W' C W) (suite : Testset T C W) : Testset T C' W' where
  typeName := suite.typeName
  name := suite.name
  create cluster := suite.create (view.cluster cluster)
  requirements := suite.requirements.map (Requirement.through view)
  tests := suite.tests.map fun test => ⟨test.name, test.body.through view⟩
  setup := suite.setup.through view
  teardown := suite.teardown.through view
  testTeardown := suite.testTeardown.through view

theorem Testset.through_shows (view : View C' W' C W) (suite : Testset T C W) :
    Testset.Shows view (suite.through view) suite where
  name := rfl
  tests := by
    rw [through, List.forall₂_map_left_iff, List.forall₂_same]
    intro test _
    exact ⟨rfl, test.body.through_shows view⟩
  setup := suite.setup.through_shows view
  teardown := suite.teardown.through_shows view
  testTeardown := suite.testTeardown.through_shows view

/-- What is seen of the state of a run. -/
def RunState.seen (view : View C' W' C W) (state : RunState T C' W') : RunState T C W :=
  ⟨state.stage.seen view, state.generator, state.panicSite⟩

@[simp] theorem RunState.seen_stage (view : View C' W' C W) (state : RunState T C' W') :
    (state.seen view).stage = state.stage.seen view := rfl

/-- What is seen of what a phase comes to. -/
def Invocation.seen (view : View C' W' C W) (invocation : Invocation T C' W') :
    Invocation T C W :=
  ⟨invocation.failure, invocation.state.seen view, invocation.printed⟩

/-- What is seen of what a run comes to. -/
def RunResult.seen (view : View C' W' C W) (result : RunResult T C' W') : RunResult T C W :=
  ⟨result.outcome, result.state.seen view, result.printed⟩

@[simp] theorem Invocation.seen_failure (view : View C' W' C W)
    (invocation : Invocation T C' W') : (invocation.seen view).failure = invocation.failure := rfl

@[simp] theorem Invocation.seen_state (view : View C' W' C W) (invocation : Invocation T C' W') :
    (invocation.seen view).state = invocation.state.seen view := rfl

@[simp] theorem Invocation.seen_printed (view : View C' W' C W)
    (invocation : Invocation T C' W') : (invocation.seen view).printed = invocation.printed := rfl

@[simp] theorem RunResult.seen_state (view : View C' W' C W) (result : RunResult T C' W') :
    (result.seen view).state = result.state.seen view := rfl

/-- Tests that are related one by one are found under the same names. -/
theorem Testset.find?_rel {R : TestCase T C' W' → TestCase T C W → Prop}
    {suite' : Testset T C' W'} {suite : Testset T C W}
    (hname : ∀ {test' test}, R test' test → test'.name = test.name)
    (htests : List.Forall₂ R suite'.tests suite.tests) (name : String) :
    Option.Rel R (suite'.find? name) (suite.find? name) := by
  unfold Testset.find?
  generalize suite'.tests = tests', suite.tests = tests at htests
  induction htests with
  | nil => exact .none
  | cons hd _ ih =>
    rw [List.find?_cons, List.find?_cons, hname hd]
    split
    · exact .some hd
    · exact ih

theorem Testset.Shows.find? {view : View C' W' C W} {suite' : Testset T C' W'}
    {suite : Testset T C W} (h : Testset.Shows view suite' suite) (name : String) :
    Option.Rel (TestCase.Shows view) (suite'.find? name) (suite.find? name) :=
  Testset.find?_rel And.left h.tests name

/-! ### Runs -/

namespace Runner

/-- The same settings, with a testset that shows the other. -/
structure Shows (view : View C' W' C W) (r' : Runner T C' W') (r : Runner T C W) : Prop where
  config : r'.config = r.config
  chain : r'.chain = r.chain
  intercept : r'.intercept = r.intercept
  suite : Testset.Shows view r'.suite r.suite

variable {view : View C' W' C W} {r' : Runner T C' W'} {r : Runner T C W}

theorem Shows.attempted (h : Shows view r' r) : r'.attempted = r.attempted := by
  rw [Runner.attempted, Runner.attempted, h.config]

theorem invoke_seen (h : Shows view r' r) (phase : Phase) {body' : Body T C' W'}
    {body : Body T C W} (hbody : Body.Shows view body' body) (state : RunState T C' W') :
    (r'.invoke phase body' state).seen view = r.invoke phase body (state.seen view) := by
  have hending := hbody r.config (Generator.ofSeed (phase.seed r.chain)) state.stage
  unfold invoke qualified Generator.callSeeded
  rw [h.config, h.chain, h.intercept, h.suite.name]
  split
  · rfl
  · simp only [RunState.seen_stage, ← hending]
    rfl

theorem runTests_seen (h : Shows view r' r) (testset : String) (names : List String)
    (state : RunState T C' W') :
    (r'.runTests testset names state).seen view =
      r.runTests testset names (state.seen view) := by
  induction names generalizing state with
  | nil => rfl
  | cons name rest ih =>
    have hfound := h.suite.find? name
    rw [runTests, runTests]
    generalize r'.suite.find? name = found', r.suite.find? name = found at hfound
    cases hfound with
    | none =>
      rw [← ih]
      rfl
    | @some test' test htest =>
      have hrun := invoke_seen h (.test test.name) htest.2 state
      have hafter := invoke_seen h .testTeardown h.suite.testTeardown
      simp only [htest.1, ← hrun, Invocation.seen_failure, Invocation.seen_state,
        Invocation.seen_printed, ← hafter, ← ih, h.attempted]
      split <;> rfl

theorem runUpToTeardown_seen (h : Shows view r' r) (testset : String) (names : List String)
    (state : RunState T C' W') :
    (r'.runUpToTeardown testset names state).seen view =
      r.runUpToTeardown testset names (state.seen view) := by
  have hsetup := invoke_seen h .setup h.suite.setup
  simp only [runUpToTeardown, ← hsetup, Invocation.seen_failure, Invocation.seen_state,
    Invocation.seen_printed, ← runTests_seen h]
  split <;> rfl

/-- **Looking changes nothing.** A run of what shows a testset is, seen through the view, the run
of the testset itself. -/
theorem run_seen (h : Shows view r' r) (names : List String) (progress : Option Progress)
    (state : RunState T C' W') :
    (r'.run names progress state).seen view = r.run names progress (state.seen view) := by
  have hteardown := invoke_seen h .teardown h.suite.teardown
  have hname : r'.suite.name state.stage.testset =
      r.suite.name (state.seen view).stage.testset := by
    rw [h.suite.name]
    rfl
  simp only [run, hname, ← runUpToTeardown_seen h, RunResult.seen_state, ← hteardown]
  rfl

end Runner

end Testbed
