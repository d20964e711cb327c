import Testbed.Output.Status
import Testbed.Requirement
import Testbed.Seed.Generator
import Testbed.Text.TypeName

/-!
# Testsets

A testset is an ordered collection of named tests that share setup and teardown. Its bodies work
on a value `T` of the testset's own, on a cluster and on the world around it. A body can return,
fail with a report, or panic; in each case it leaves all of these in some state, has printed
some text, and has drawn from the generator it was lent.

A panic may have been raised with its place recorded, or passed on without. The place of a panic
that the body caught itself stays on record until a phase ends with a panic.

## Main definitions

* `Verdict`, `Ending`, `Body` — what a body does
* `TestCase`, `Testset` — tests and what they share
* `Phase` — the four kinds of phases, with their names, styles and seeds
-/

namespace Testbed

/-! ### Bodies -/

/-- How a body ended. -/
inductive Verdict where
  | passed
  | failed (report : Report)
  /-- A panic with its message, if it has one in words. -/
  | panicked (message : Option String)
  deriving DecidableEq, Repr

/-- What the bodies of a testset work on. -/
structure Stage (T C W : Type) where
  testset : T
  cluster : C
  world : W

/-- What a body leaves behind. -/
structure Ending (T C W : Type) where
  verdict : Verdict
  stage : Stage T C W
  generator : Generator
  printed : String
  elapsed : Duration
  /-- Where the last panic was raised of those whose place was recorded. -/
  raisedAt : Option String

/-- A body, under a configuration, on a generator that is seeded for it. -/
abbrev Body (T C W : Type) := Config → Generator → Stage T C W → Ending T C W

/-! ### Testsets -/

/-- A registered test. -/
structure TestCase (T C W : Type) where
  name : String
  body : Body T C W

/-- What is told of a registered test: its name. -/
def TestCase.text {T C W : Type} (test : TestCase T C W) : String :=
  "TestCase(" ++ Quoted.text test.name ++ ")"

/-- An ordered collection of tests that share setup and teardown. -/
structure Testset (T C W : Type) where
  /-- The name under which a cluster that cannot be had is reported. -/
  typeName : String
  /-- The name that qualifies every report of an instance. -/
  name : T → String
  /-- An instance for a cluster. -/
  create : C → T
  requirements : List (Requirement C W)
  /-- The tests in their order. -/
  tests : List (TestCase T C W)
  setup : Body T C W
  teardown : Body T C W
  /-- Runs after every test, whether it passed or not. -/
  testTeardown : Body T C W

variable {T C W : Type}

/-- The first registered test of a name. -/
def Testset.find? (suite : Testset T C W) (name : String) : Option (TestCase T C W) :=
  suite.tests.find? fun test => test.name == name

/-- The names of the registered tests, in order. -/
def Testset.testNames (suite : Testset T C W) : List String :=
  suite.tests.map TestCase.name

theorem Testset.find?_isSome_iff (suite : Testset T C W) (name : String) :
    (suite.find? name).isSome = true ↔ name ∈ suite.testNames := by
  simp [find?, testNames, List.find?_isSome]

/-! ### Phases -/

/-- One invocation in the run of a testset. -/
inductive Phase where
  | setup
  | test (name : String)
  | testTeardown
  | teardown
  deriving DecidableEq, Repr

namespace Phase

/-- The name of a phase within its testset. -/
def label : Phase → String
  | .setup => "setup"
  | .test name => name
  | .testTeardown => "test_teardown"
  | .teardown => "teardown"

/-- Only tests are reported when they succeed. -/
def style : Phase → ReportStyle
  | .test _ => .statusLine
  | _ => .failureOnly

/-- The seed of a phase. -/
def seed (chain : SeedChain) : Phase → Seed
  | .setup => chain.setup
  | .test _ => chain.test
  | .testTeardown => chain.testTeardown
  | .teardown => chain.teardown

end Phase

end Testbed
