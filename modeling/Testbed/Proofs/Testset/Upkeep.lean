import Testbed.Testset.Runner

/-!
# What a run leaves as it was

A run does to a stage what its bodies do to it, and nothing else. So a condition that every body
of a testset keeps is kept by a run, however it goes; and a dry run, which invokes no body, leaves
the stage as it was.

## Main definitions

* `Body.Keeps`, `Testset.Keeps` — a body, and all bodies of a testset, keep a condition

## Main results

* `Runner.run_keeps`, `Runner.run_state_of_dry`
-/

namespace Testbed

variable {T C W : Type}

/-- However the body is called, the condition holds afterwards if it held before. -/
def Body.Keeps (P : Stage T C W → Prop) (body : Body T C W) : Prop :=
  ∀ config generator stage, P stage → P (body config generator stage).stage

/-- Every body of a testset keeps the condition. -/
structure Testset.Keeps (P : Stage T C W → Prop) (suite : Testset T C W) : Prop where
  setup : suite.setup.Keeps P
  tests : ∀ test ∈ suite.tests, test.body.Keeps P
  testTeardown : suite.testTeardown.Keeps P
  teardown : suite.teardown.Keeps P

namespace Runner

/-! ### Conditions that are kept -/

section keeps

variable {P : Stage T C W → Prop} (r : Runner T C W)

theorem invoke_keeps (phase : Phase) {body : Body T C W} (hbody : body.Keeps P)
    {state : RunState T C W} (h : P state.stage) : P (r.invoke phase body state).state.stage := by
  rw [invoke]
  split
  · exact h
  · exact hbody r.config _ state.stage h

theorem runTests_keeps (hsuite : r.suite.Keeps P) (testset : String) (names : List String)
    {state : RunState T C W} (h : P state.stage) :
    P (r.runTests testset names state).state.stage := by
  induction names generalizing state with
  | nil => exact h
  | cons name rest ih =>
    cases hname : r.suite.find? name with
    | none =>
      rw [runTests_of_unknown hname]
      exact ih h
    | some test =>
      have hbody := hsuite.tests test (List.mem_of_find?_eq_some hname)
      have hrun := r.invoke_keeps (.test test.name) hbody h
      have hafter := r.invoke_keeps .testTeardown hsuite.testTeardown hrun
      generalize hmade : r.invoke .testTeardown r.suite.testTeardown _ = made at hafter
      cases hfailure : made.failure with
      | none =>
        rw [runTests_of_success hname rfl hmade hfailure]
        exact ih hafter
      | some failure =>
        rw [runTests_of_failure hname rfl hmade hfailure]
        exact hafter

theorem runUpToTeardown_keeps (hsuite : r.suite.Keeps P) (testset : String)
    (names : List String) {state : RunState T C W} (h : P state.stage) :
    P (r.runUpToTeardown testset names state).state.stage := by
  have hsetup := r.invoke_keeps .setup hsuite.setup h
  generalize hmade : r.invoke .setup r.suite.setup state = made at hsetup
  cases hfailure : made.failure with
  | none =>
    rw [runUpToTeardown_of_success hmade hfailure]
    exact r.runTests_keeps hsuite testset names hsetup
  | some failure =>
    rw [runUpToTeardown_of_failure hmade hfailure]
    exact hsetup

/-- What every body keeps, a run keeps. -/
theorem run_keeps (hsuite : r.suite.Keeps P) (names : List String) (progress : Option Progress)
    {state : RunState T C W} (h : P state.stage) :
    P (r.run names progress state).state.stage :=
  r.invoke_keeps .teardown hsuite.teardown (r.runUpToTeardown_keeps hsuite _ names h)

end keeps

/-! ### Dry runs -/

section dry

variable {r : Runner T C W} (hdry : r.config.dryRun = true)
include hdry

theorem invoke_of_dry (phase : Phase) (body : Body T C W) (state : RunState T C W) :
    (r.invoke phase body state).failure = none ∧ (r.invoke phase body state).state = state := by
  rw [invoke, hdry]
  exact ⟨rfl, rfl⟩

theorem runTests_state_of_dry (testset : String) (names : List String) (state : RunState T C W) :
    (r.runTests testset names state).state = state := by
  induction names with
  | nil => rfl
  | cons name rest ih =>
    cases hname : r.suite.find? name with
    | none =>
      rw [runTests_of_unknown hname]
      exact ih
    | some test =>
      obtain ⟨-, hrun⟩ := invoke_of_dry hdry (.test test.name) test.body state
      obtain ⟨hsuccess, hafter⟩ := invoke_of_dry hdry .testTeardown r.suite.testTeardown
        (r.invoke (.test test.name) test.body state).state
      rw [runTests_of_success hname rfl rfl hsuccess, hafter, hrun]
      exact ih

/-- A dry run leaves everything as it was. -/
theorem run_state_of_dry (names : List String) (progress : Option Progress)
    (state : RunState T C W) : (r.run names progress state).state = state := by
  obtain ⟨hsuccess, hsetup⟩ := invoke_of_dry hdry .setup r.suite.setup state
  have hbefore : (r.runUpToTeardown (r.suite.name state.stage.testset) names state).state =
      state := by
    rw [runUpToTeardown_of_success rfl hsuccess]
    simp only [hsetup, runTests_state_of_dry hdry]
  have hteardown := (invoke_of_dry hdry .teardown r.suite.teardown
    (r.runUpToTeardown (r.suite.name state.stage.testset) names state).state).2
  rw [hbefore] at hteardown
  simp only [run, hbefore, hteardown]

end dry

end Runner

end Testbed
