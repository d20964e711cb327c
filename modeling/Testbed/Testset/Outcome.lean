import Testbed.Testset.Basic

/-!
# Outcomes

What the run of a testset comes to: how many tests were attempted, what went wrong, and which
tests were not run.

## Main definitions

* `TestError`, `NotRan`, `Outcome`
* `Outcome.passed` — nothing went wrong and nothing was left out
-/

namespace Testbed

/-- What went wrong under a name. -/
inductive TestError.Cause where
  /-- No test of that name is registered. -/
  | unknownTest (testset test : String)
  /-- A phase failed, or the cluster could not be had. -/
  | raised (report : Report)
  deriving DecidableEq, Repr

/-- One thing that went wrong. -/
structure TestError where
  /-- The name of the testset, a point, and the name of the phase. -/
  name : String
  cause : TestError.Cause
  deriving DecidableEq, Repr

/-- The report that tells what went wrong. -/
def TestError.report (error : TestError) : Report :=
  match error.cause with
  | .unknownTest testset test => .message s!"testset {testset} has no test named '{test}'"
  | .raised report => report

/-- Whether no test of the name is registered. -/
def TestError.isUnknown (error : TestError) : Bool :=
  match error.cause with
  | .unknownTest .. => true
  | .raised _ => false

/-- A test that was never invoked, and why. -/
structure NotRan where
  name : String
  reason : String
  deriving DecidableEq, Repr

/-- What the run of a testset comes to. -/
structure Outcome where
  /-- Tests attempted, among them those whose teardown failed. -/
  executed : Nat
  errors : List TestError
  notRan : List NotRan
  deriving DecidableEq, Repr

namespace Outcome

/-- Nothing went wrong and nothing was left out. -/
def passed (outcome : Outcome) : Bool :=
  outcome.errors.isEmpty && outcome.notRan.isEmpty

/-- Tests that are left out for one reason. -/
def leaveOut (names : List String) (reason : String) : List NotRan :=
  names.map fun name => ⟨name, reason⟩

theorem passed_iff (outcome : Outcome) :
    outcome.passed = true ↔ outcome.errors = [] ∧ outcome.notRan = [] := by
  simp [passed]

@[simp] theorem length_leaveOut (names : List String) (reason : String) :
    (leaveOut names reason).length = names.length := by
  simp [leaveOut]

@[simp] theorem map_name_leaveOut (names : List String) (reason : String) :
    (leaveOut names reason).map NotRan.name = names := by
  rw [leaveOut, List.map_map]
  exact List.map_id names

end Outcome

end Testbed
