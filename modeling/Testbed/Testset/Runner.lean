import Testbed.Testset.Outcome

/-!
# Running a testset

A testset runs on one cluster: setup once; then each requested test in order, followed by the
test teardown; then teardown once, whatever happened before. Every failure, a panic as well as a
report, is contained in its phase and collected. A failed setup leaves out all tests, and a
failed test teardown all tests after it, since their results could not be trusted.

Each phase draws from a generator under the phase's own seed, so neither the state from which
the run started nor any other phase has a part in what it draws.

A dry run makes the reports of the skeleton and invokes nothing.

## Main definitions

* `Runner` — what stays the same during a run
* `Runner.invoke` — one phase with its report
* `Runner.runTests` — the requested tests
* `Runner.run`, `Runner.runAll` — a run

## Main results

* `Runner.invoke_generator` — no draw of a phase is left in the generator
-/

namespace Testbed

/-- The reason why tests are left out after a failed setup. -/
def setupFailed : String := "testset setup failed"

/-- The reason why tests are left out after a failed test teardown. -/
def testTeardownFailed : String := "Earlier test_teardown failed"

/-- Position of a testset within a whole run. -/
structure Progress where
  position : Nat
  total : Nat
  deriving DecidableEq, Repr

/-- What changes during a run. -/
structure RunState (T C W : Type) where
  stage : Stage T C W
  generator : Generator
  /-- The place of a panic that no phase has reported. -/
  panicSite : Option String

/-- What stays the same during a run. -/
structure Runner (T C W : Type) where
  config : Config
  suite : Testset T C W
  chain : SeedChain
  /-- Output of bodies is captured unless the configuration streams it. -/
  intercept : Bool

/-- What a phase comes to. -/
structure Invocation (T C W : Type) where
  failure : Option TestError
  state : RunState T C W
  printed : String

/-- What a run, or a part of it, comes to. -/
structure RunResult (T C W : Type) where
  outcome : Outcome
  state : RunState T C W
  printed : String

namespace Runner

variable {T C W : Type}

/-! ### One phase -/

/-- The words for a panic without a message in words. -/
def unknownPayload : String := "unknown panic payload"

/-- The result of a body with a panic turned into a report. -/
def contain (verdict : Verdict) (panicSite : Option String) : Except Report Unit :=
  match verdict with
  | .passed => .ok ()
  | .failed report => .error report
  | .panicked message => .error (.panic (message.getD unknownPayload) panicSite)

/-- The place on record after a phase: a panic that ends it takes the place with it. -/
def sitesAfter (verdict : Verdict) (panicSite : Option String) : Option String :=
  match verdict with
  | .panicked _ => none
  | _ => panicSite

/-- The qualified name of a phase. -/
def qualified (r : Runner T C W) (testset : T) (phase : Phase) : String :=
  r.suite.name testset ++ "." ++ phase.label

/-- Invokes the body of a phase under the phase's seed and reports it. -/
def invoke (r : Runner T C W) (phase : Phase) (body : Body T C W) (state : RunState T C W) :
    Invocation T C W :=
  let name := r.qualified state.stage.testset phase
  if r.config.dryRun then
    { failure := none
      state := state
      printed :=
        if phase.style = .statusLine then Status.skip r.config name "dry run" else "" }
  else
    let (ending, generator) :=
      Generator.callSeeded (some (phase.seed r.chain)) state.generator fun generator =>
        let ending := body r.config generator state.stage
        (ending, ending.generator)
    let site := ending.raisedAt.or state.panicSite
    let call :=
      Status.call r.config name phase.label phase.style r.intercept
        ⟨contain ending.verdict site, ending.printed⟩ ending.elapsed
    { failure :=
        match call.value with
        | .ok () => none
        | .error report => some ⟨name, .raised report⟩
      state :=
        { stage := ending.stage
          generator := generator
          panicSite := sitesAfter ending.verdict site }
      printed := call.text }

theorem invoke_generator (r : Runner T C W) (phase : Phase) (body : Body T C W)
    (state : RunState T C W) : (r.invoke phase body state).state.generator = state.generator := by
  unfold invoke
  split <;> rfl

/-! ### The tests -/

/-- How much an attempted test adds to the count. -/
def attempted (r : Runner T C W) : Nat :=
  if r.config.dryRun then 0 else 1

/-- Runs the requested tests in order, each followed by the test teardown, up to the first test
teardown that fails. `testset` names the testset where a test is unknown. -/
def runTests (r : Runner T C W) (testset : String) :
    List String → RunState T C W → RunResult T C W
  | [], state => ⟨⟨0, [], []⟩, state, ""⟩
  | name :: rest, state =>
    match r.suite.find? name with
    | none =>
      let later := runTests r testset rest state
      let error : TestError := ⟨testset ++ "." ++ name, .unknownTest testset name⟩
      { later with outcome := { later.outcome with errors := error :: later.outcome.errors } }
    | some test =>
      let run := r.invoke (.test test.name) test.body state
      let after := r.invoke .testTeardown r.suite.testTeardown run.state
      match after.failure with
      | some failure =>
        { outcome :=
            { executed := r.attempted
              errors := run.failure.toList ++ [failure]
              notRan := Outcome.leaveOut rest testTeardownFailed }
          state := after.state
          printed := run.printed ++ after.printed }
      | none =>
        let later := runTests r testset rest after.state
        { outcome :=
            { executed := r.attempted + later.outcome.executed
              errors := run.failure.toList ++ later.outcome.errors
              notRan := later.outcome.notRan }
          state := later.state
          printed := run.printed ++ after.printed ++ later.printed }

section step

variable {r : Runner T C W} {testset name : String} {rest : List String}
  {state : RunState T C W} {test : TestCase T C W} {run after : Invocation T C W}

theorem runTests_of_unknown (hname : r.suite.find? name = none) :
    r.runTests testset (name :: rest) state =
      let later := r.runTests testset rest state
      let error : TestError := ⟨testset ++ "." ++ name, .unknownTest testset name⟩
      { later with outcome := { later.outcome with errors := error :: later.outcome.errors } } := by
  rw [runTests, hname]

/-- A test whose teardown fails is the last one. -/
theorem runTests_of_failure {failure : TestError} (hname : r.suite.find? name = some test)
    (hrun : r.invoke (.test test.name) test.body state = run)
    (hafter : r.invoke .testTeardown r.suite.testTeardown run.state = after)
    (hfailure : after.failure = some failure) :
    r.runTests testset (name :: rest) state =
      { outcome :=
          { executed := r.attempted
            errors := run.failure.toList ++ [failure]
            notRan := Outcome.leaveOut rest testTeardownFailed }
        state := after.state
        printed := run.printed ++ after.printed } := by
  rw [runTests, hname]
  simp only [hrun, hafter, hfailure]

/-- After a test whose teardown succeeds the rest is run. -/
theorem runTests_of_success (hname : r.suite.find? name = some test)
    (hrun : r.invoke (.test test.name) test.body state = run)
    (hafter : r.invoke .testTeardown r.suite.testTeardown run.state = after)
    (hsuccess : after.failure = none) :
    r.runTests testset (name :: rest) state =
      let later := r.runTests testset rest after.state
      { outcome :=
          { executed := r.attempted + later.outcome.executed
            errors := run.failure.toList ++ later.outcome.errors
            notRan := later.outcome.notRan }
        state := later.state
        printed := run.printed ++ after.printed ++ later.printed } := by
  rw [runTests, hname]
  simp only [hrun, hafter, hsuccess]

end step

/-! ### Whole runs -/

/-- The line that announces a testset. -/
def header (name : String) (progress : Option Progress) : String :=
  match progress with
  | some p => Output.line s!"\nStarting testset [{p.position}/{p.total}]: {name}..."
  | none => Output.line s!"\nStarting testset: {name}..."

/-- Runs setup and, if it succeeds, the requested tests. -/
def runUpToTeardown (r : Runner T C W) (testset : String) (names : List String)
    (state : RunState T C W) : RunResult T C W :=
  let setup := r.invoke .setup r.suite.setup state
  match setup.failure with
  | some failure =>
    ⟨⟨0, [failure], Outcome.leaveOut names setupFailed⟩, setup.state, setup.printed⟩
  | none =>
    let tests := r.runTests testset names setup.state
    { tests with printed := setup.printed ++ tests.printed }

theorem runUpToTeardown_of_failure {r : Runner T C W} {testset : String} {names : List String}
    {state : RunState T C W} {setup : Invocation T C W} {failure : TestError}
    (hsetup : r.invoke .setup r.suite.setup state = setup) (hfailure : setup.failure = some failure) :
    r.runUpToTeardown testset names state =
      ⟨⟨0, [failure], Outcome.leaveOut names setupFailed⟩, setup.state, setup.printed⟩ := by
  simp only [runUpToTeardown, hsetup, hfailure]

theorem runUpToTeardown_of_success {r : Runner T C W} {testset : String} {names : List String}
    {state : RunState T C W} {setup : Invocation T C W}
    (hsetup : r.invoke .setup r.suite.setup state = setup) (hsuccess : setup.failure = none) :
    r.runUpToTeardown testset names state =
      let tests := r.runTests testset names setup.state
      { tests with printed := setup.printed ++ tests.printed } := by
  simp only [runUpToTeardown, hsetup, hsuccess]

/-- Runs the requested tests of a testset. Nothing is thrown: all failures are in the outcome. -/
def run (r : Runner T C W) (names : List String) (progress : Option Progress)
    (state : RunState T C W) : RunResult T C W :=
  let name := r.suite.name state.stage.testset
  let before := r.runUpToTeardown name names state
  let teardown := r.invoke .teardown r.suite.teardown before.state
  { outcome :=
      { before.outcome with errors := before.outcome.errors ++ teardown.failure.toList }
    state := teardown.state
    printed := header name progress ++ before.printed ++ teardown.printed }

/-- Runs every registered test in order. -/
def runAll (r : Runner T C W) (state : RunState T C W) : RunResult T C W :=
  r.run r.suite.testNames none state

end Runner

end Testbed
