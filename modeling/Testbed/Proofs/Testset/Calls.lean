import Testbed.Proofs.View

/-!
# The calls of a run

Which bodies a run invokes cannot be read off what it comes to: a body may leave no trace at all.
So the bodies of a testset are made to take notes, in a world that carries the notes beside the
world the bodies act on. The run of the testset that takes notes is an ordinary run, by the same
`Runner.run`, and what is noted in it are the calls of the run.

A note is taken of what a body was given and of what it left behind, so nothing about a call has
to be recovered later. A test is noted by its place among the registered tests, since two tests
may bear one name.

## Main definitions

* `Call` — one invocation of a body, at a `Site`
* `Testset.noting`, `Runner.noting` — the same bodies, taking notes
* `Runner.calls` — the calls of a run

## Main results

* `Runner.run_noting_seen` — taking notes changes nothing else
* `Runner.invoke_noting` — a phase adds one note, of the call that it makes
-/

namespace Testbed

variable {E T C W : Type}

/-! ### Calls -/

/-- Where in a testset a body stands. -/
inductive Site where
  | setup
  /-- The test at a place among the registered tests. -/
  | test (place : Nat) (name : String)
  | testTeardown
  | teardown
  deriving DecidableEq, Repr

/-- The phase in which the body of a site is invoked. -/
def Site.phase : Site → Phase
  | .setup => .setup
  | .test _ name => .test name
  | .testTeardown => .testTeardown
  | .teardown => .teardown

/-- One invocation of a body: what it was given, and what it left behind. -/
structure Call (T C W : Type) where
  site : Site
  generator : Generator
  entry : Stage T C W
  ending : Ending T C W

/-- The body returned, and did not fail. -/
def Call.Passed (call : Call T C W) : Prop :=
  call.ending.verdict = .passed

instance (call : Call T C W) : Decidable call.Passed :=
  inferInstanceAs (Decidable (call.ending.verdict = .passed))

/-! ### Bodies that take notes -/

/-- A body that adds a note of each of its calls, and does nothing else differently. -/
def Body.noting (note : Call T C W → E) (site : Site) (body : Body T C W) :
    Body T C (Noted E W) :=
  fun config generator stage =>
    let entry := stage.seen Noted.view
    let ending := body config generator entry
    { verdict := ending.verdict
      stage :=
        { testset := ending.stage.testset
          cluster := ending.stage.cluster
          world := ⟨ending.stage.world, stage.world.notes ++ [note ⟨site, generator, entry, ending⟩]⟩ }
      generator := ending.generator
      printed := ending.printed
      elapsed := ending.elapsed
      raisedAt := ending.raisedAt }

/-- The same testset, with bodies that take notes. -/
def Testset.noting (note : Call T C W → E) (suite : Testset T C W) :
    Testset T C (Noted E W) where
  typeName := suite.typeName
  name := suite.name
  create := suite.create
  requirements := suite.requirements.map (Requirement.through Noted.view)
  tests := suite.tests.zipIdx.map fun (test, place) =>
    ⟨test.name, test.body.noting note (.test place test.name)⟩
  setup := suite.setup.noting note .setup
  teardown := suite.teardown.noting note .teardown
  testTeardown := suite.testTeardown.noting note .testTeardown

/-- The first registered test of a name, and its place. -/
def Testset.locate? (suite : Testset T C W) (name : String) : Option (TestCase T C W × Nat) :=
  suite.tests.zipIdx.find? fun entry => entry.1.name == name

theorem Testset.find?_eq_locate? (suite : Testset T C W) (name : String) :
    suite.find? name = (suite.locate? name).map Prod.fst := by
  have htests : suite.tests = suite.tests.zipIdx.map Prod.fst :=
    (List.zipIdx_map_fst 0 suite.tests).symm
  rw [find?, htests, List.find?_map]
  rfl

theorem Testset.find?_of_none {suite : Testset T C W} {name : String}
    (h : suite.locate? name = none) : suite.find? name = none := by
  rw [find?_eq_locate?, h]
  rfl

theorem Testset.find?_of_some {suite : Testset T C W} {name : String} {test : TestCase T C W}
    {place : Nat} (h : suite.locate? name = some (test, place)) :
    suite.find? name = some test := by
  rw [find?_eq_locate?, h]
  rfl

theorem Testset.name_of_locate? {suite : Testset T C W} {name : String}
    {found : TestCase T C W × Nat} (h : suite.locate? name = some found) :
    found.1.name = name := by
  simpa using List.find?_some h

theorem Testset.noting_find? (note : Call T C W → E) (suite : Testset T C W) (name : String) :
    (suite.noting note).find? name = (suite.locate? name).map fun (test, place) =>
      ⟨name, test.body.noting note (.test place name)⟩ := by
  have h : (suite.noting note).find? name = (suite.locate? name).map fun (test, place) =>
      ⟨test.name, test.body.noting note (.test place test.name)⟩ := by
    rw [locate?, find?, noting, List.find?_map]
    rfl
  rw [h]
  cases hfound : suite.locate? name with
  | none => rfl
  | some found => simp only [Option.map_some, name_of_locate? hfound]

theorem Body.noting_shows (note : Call T C W → E) (site : Site) (body : Body T C W) :
    Body.Shows Noted.view (body.noting note site) body :=
  fun _ _ _ => rfl

theorem Testset.noting_shows (note : Call T C W → E) (suite : Testset T C W) :
    Testset.Shows Noted.view (suite.noting note) suite where
  name := rfl
  tests := by
    have h : List.Forall₂ (TestCase.Shows Noted.view) (suite.noting note).tests
        (suite.tests.zipIdx.map Prod.fst) := by
      rw [noting, List.forall₂_map_left_iff, List.forall₂_map_right_iff, List.forall₂_same]
      intro entry _
      exact ⟨rfl, entry.1.body.noting_shows note (.test entry.2 entry.1.name)⟩
    rwa [List.zipIdx_map_fst] at h
  setup := suite.setup.noting_shows note .setup
  teardown := suite.teardown.noting_shows note .teardown
  testTeardown := suite.testTeardown.noting_shows note .testTeardown

/-! ### The calls of a run -/

/-- The state of a run before any note is taken. -/
def RunState.unnoted (E : Type) (state : RunState T C W) : RunState T C (Noted E W) where
  stage := ⟨state.stage.testset, state.stage.cluster, ⟨state.stage.world, []⟩⟩
  generator := state.generator
  panicSite := state.panicSite

namespace Runner

/-- The same run, with bodies that take notes. -/
def noting (note : Call T C W → E) (r : Runner T C W) : Runner T C (Noted E W) where
  config := r.config
  suite := r.suite.noting note
  chain := r.chain
  intercept := r.intercept

/-- The calls of a run, in order: what is noted if every call is. -/
def calls (r : Runner T C W) (names : List String) (progress : Option Progress)
    (state : RunState T C W) : List (Call T C W) :=
  ((r.noting id).run names progress (state.unnoted _)).state.stage.world.notes

theorem noting_find?_of_none {r : Runner T C W} {name : String}
    (h : r.suite.locate? name = none) (note : Call T C W → E) :
    (r.noting note).suite.find? name = none := by
  rw [noting, Testset.noting_find?, h]
  rfl

theorem noting_find?_of_some {r : Runner T C W} {name : String} {test : TestCase T C W}
    {place : Nat} (h : r.suite.locate? name = some (test, place)) (note : Call T C W → E) :
    (r.noting note).suite.find? name =
      some ⟨name, test.body.noting note (.test place name)⟩ := by
  rw [noting, Testset.noting_find?, h]
  rfl

theorem noting_shows (note : Call T C W → E) (r : Runner T C W) :
    Shows Noted.view (r.noting note) r where
  config := rfl
  chain := rfl
  intercept := rfl
  suite := r.suite.noting_shows note

/-- Taking notes changes nothing else. -/
theorem run_noting_seen (note : Call T C W → E) (r : Runner T C W) (names : List String)
    (progress : Option Progress) (state : RunState T C (Noted E W)) :
    ((r.noting note).run names progress state).seen Noted.view =
      r.run names progress (state.seen Noted.view) :=
  run_seen (r.noting_shows note) names progress state

end Runner

/-! ### One call

A phase that is really invoked makes one call. What the phase comes to is said by the call alone,
but for the place of a panic, which may have been recorded before. -/

/-- What a call that did not end well is reported as. `panicSite` is the place on record before
the call. -/
def Call.report? (panicSite : Option String) (call : Call T C W) : Option Report :=
  match call.ending.verdict with
  | .passed => none
  | .failed report => some report
  | .panicked message =>
    some (.panic (message.getD Runner.unknownPayload) (call.ending.raisedAt.or panicSite))

/-- What a call that did not end well is listed as. -/
def Call.error? (suite : Testset T C W) (panicSite : Option String) (call : Call T C W) :
    Option TestError :=
  (call.report? panicSite).map fun report =>
    ⟨suite.name call.entry.testset ++ "." ++ call.site.phase.label, .raised report⟩

/-- The place on record after a call: a call that ends with a panic takes it along. -/
def Call.panicSiteAfter (panicSite : Option String) (call : Call T C W) : Option String :=
  match call.ending.verdict with
  | .panicked _ => none
  | _ => call.ending.raisedAt.or panicSite

theorem Call.error?_eq_none_iff (suite : Testset T C W) (panicSite : Option String)
    (call : Call T C W) : call.error? suite panicSite = none ↔ call.Passed := by
  unfold error? report? Passed
  cases call.ending.verdict <;> simp

theorem Call.exists_error? {call : Call T C W} (h : ¬ call.Passed) (suite : Testset T C W)
    (panicSite : Option String) : ∃ error, call.error? suite panicSite = some error :=
  Option.ne_none_iff_exists'.mp (mt (call.error?_eq_none_iff suite panicSite).mp h)

namespace Runner

/-- The call that a run makes of a body on a stage: under the seed of the phase. -/
def call (r : Runner T C W) (site : Site) (body : Body T C W) (stage : Stage T C W) :
    Call T C W :=
  let generator := Generator.ofSeed (site.phase.seed r.chain)
  ⟨site, generator, stage, body r.config generator stage⟩

variable {r : Runner T C W}

theorem invoke_failure (hdry : r.config.dryRun = false) (site : Site) (body : Body T C W)
    (state : RunState T C W) :
    (r.invoke site.phase body state).failure =
      (r.call site body state.stage).error? r.suite state.panicSite := by
  simp only [invoke, hdry, Status.call_value, call, Call.error?, Call.report?, contain, qualified,
    Generator.callSeeded]
  cases (body r.config (Generator.ofSeed (site.phase.seed r.chain)) state.stage).verdict <;> rfl

theorem invoke_state (hdry : r.config.dryRun = false) (site : Site) (body : Body T C W)
    (state : RunState T C W) :
    (r.invoke site.phase body state).state =
      { stage := (r.call site body state.stage).ending.stage
        generator := state.generator
        panicSite := (r.call site body state.stage).panicSiteAfter state.panicSite } := by
  simp only [invoke, hdry, Generator.callSeeded]
  unfold sitesAfter Call.panicSiteAfter
  cases hverdict : (body r.config (Generator.ofSeed (site.phase.seed r.chain)) state.stage).verdict <;>
    simp [call, hverdict]

theorem invoke_failure_eq_none_iff (hdry : r.config.dryRun = false) (site : Site)
    (body : Body T C W) (state : RunState T C W) :
    (r.invoke site.phase body state).failure = none ↔ (r.call site body state.stage).Passed := by
  rw [invoke_failure hdry, Call.error?_eq_none_iff]

/-- A phase that takes notes passes if its call does, leaves what the call leaves, and adds one
note, of the call. -/
theorem invoke_noting {note : Call T C W → E} {site : Site} {phase : Phase}
    {body : Body T C W} {stage : Stage T C W} {call : Call T C W}
    {state : RunState T C (Noted E W)} {made : Invocation T C (Noted E W)}
    (hdry : r.config.dryRun = false) (hphase : site.phase = phase)
    (hstage : state.stage.seen Noted.view = stage) (hcall : call = r.call site body stage)
    (hmade : (r.noting note).invoke phase (body.noting note site) state = made) :
    (made.failure = none ↔ call.Passed) ∧ made.state.stage.seen Noted.view = call.ending.stage ∧
      made.state.stage.world.notes = state.stage.world.notes ++ [note call] := by
  subst hphase hstage hcall hmade
  refine ⟨invoke_failure_eq_none_iff (r := r.noting note) hdry site _ state, ?_, ?_⟩
  · rw [invoke_state (r := r.noting note) hdry]
    rfl
  · rw [invoke_state (r := r.noting note) hdry]
    rfl

end Runner

/-! ### A sample

A testset whose instance counts the calls that were made of it, so that how a call ends depends
on the ones before it. -/

/-- A body that counts its calls, and ends as the count says. -/
def Body.counting (verdict : Nat → Verdict) : Body Nat C W :=
  fun _ generator stage =>
    { verdict := verdict stage.testset
      stage := { stage with testset := stage.testset + 1 }
      generator
      printed := ""
      elapsed := .zero
      raisedAt := none }

/-- One test panics, the other passes; from the fourth call on the test teardown panics too; and
teardown fails. -/
def Runner.sample : Runner Nat Unit Unit where
  config := .plain
  suite :=
    { typeName := "Sample"
      name := fun _ => "Sample"
      create := fun _ => 0
      requirements := []
      tests := [⟨"a", .counting fun _ => .panicked none⟩, ⟨"b", .counting fun _ => .passed⟩]
      setup := .counting fun _ => .passed
      teardown := .counting fun _ => .failed (.message "left over")
      testTeardown :=
        .counting fun count => if count < 4 then .passed else .panicked (some "late") }
  chain := .ofSeed (Seed.ofUInt64 0)
  intercept := true

/-- The sample before its run. -/
def Runner.sampleState : RunState Nat Unit Unit :=
  ⟨⟨0, (), ()⟩, Generator.ofSeed (Seed.ofUInt64 0), none⟩

end Testbed
