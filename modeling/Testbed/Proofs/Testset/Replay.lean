import Testbed.Proofs.Testset.Accounting

/-!
# Replaying the draws of a run

Every phase draws under a seed of its own, a link of one chain. So a body is given the same
generator whenever its phase has its turn: whatever the generator of the run was, whatever the
bodies before it drew, and however they ended. A run under a known seed can be replayed, and so
can each of its tests alone.

What is replayed of a test is left open. Something is told of its ending, and perhaps of the place
on record before it; if that depends on the generator alone, it is the same in every run.

## What is deliberately absent

A place that is on record from an earlier phase is no draw. If a test panics and leaves no place,
it is reported with the one on record, and that is not replayed unless it is left out of what is
told. A verdict says nothing of places.

## Main definitions

* `Site.link` — the seed under which a body draws
* `Body.DependsOnDraws` — what is told of its endings depends on the generator alone
* `Runner.told`, `Runner.replayed` — what is told of the tests of a run, and of a test alone

## Main results

* `Runner.Course.generator_eq` — the generator of each call
* `Runner.run_withEntropy` — the generator of a run has no part in it
* `Runner.Course.told_eq` — the tests of a run are as each is alone
* `Runner.draws_are_replayed`
-/

namespace Testbed

variable {α T C W : Type}

/-! ### The generator of each call -/

/-- The seed under which a body draws: the link of the chain for its phase. -/
def Site.link (seed : Seed) : Site → Seed
  | .setup => seed
  | .test .. => seed.derive
  | .testTeardown => seed.derive.derive
  | .teardown => seed.derive.derive.derive

theorem Site.seed_phase (seed : Seed) (site : Site) :
    site.phase.seed (.ofSeed seed) = site.link seed := by
  cases site <;> rfl

namespace Runner

section course

variable {r : Runner T C W} {names : List String} {stage last : Stage T C W}
  {history : List (Happening T C W)} {notRan : List NotRan}

theorem Makes.generator_eq {call : Call T C W} (h : r.Makes call) :
    call.generator = .ofSeed (call.site.phase.seed r.chain) := by
  cases h <;> rfl

/-- Each call of a course is given the generator of its phase's link. -/
theorem Course.generator_eq (h : r.Course names stage history notRan last) :
    ∀ call ∈ Happening.calls history,
      call.generator = .ofSeed (call.site.phase.seed r.chain) :=
  fun call hmem => (h.makes call hmem).generator_eq

end course

end Runner

/-! ### The generator of a run

Each function of a run is followed with the generator exchanged: nothing else is different. -/

/-- The same state, with another generator. -/
def RunState.withEntropy (entropy : Generator) (state : RunState T C W) : RunState T C W :=
  { state with generator := entropy }

def Invocation.withEntropy (entropy : Generator) (invocation : Invocation T C W) :
    Invocation T C W :=
  { invocation with state := invocation.state.withEntropy entropy }

def RunResult.withEntropy (entropy : Generator) (result : RunResult T C W) : RunResult T C W :=
  { result with state := result.state.withEntropy entropy }

@[simp] theorem Invocation.withEntropy_failure (entropy : Generator)
    (invocation : Invocation T C W) :
    (invocation.withEntropy entropy).failure = invocation.failure := rfl

@[simp] theorem Invocation.withEntropy_state (entropy : Generator)
    (invocation : Invocation T C W) :
    (invocation.withEntropy entropy).state = invocation.state.withEntropy entropy := rfl

@[simp] theorem RunResult.withEntropy_state (entropy : Generator) (result : RunResult T C W) :
    (result.withEntropy entropy).state = result.state.withEntropy entropy := rfl

namespace Runner

section entropy

variable (r : Runner T C W) (entropy : Generator)

theorem invoke_withEntropy (phase : Phase) (body : Body T C W) (state : RunState T C W) :
    r.invoke phase body (state.withEntropy entropy) =
      (r.invoke phase body state).withEntropy entropy := by
  unfold invoke
  split <;> rfl

theorem runTests_withEntropy (testset : String) (names : List String) (state : RunState T C W) :
    r.runTests testset names (state.withEntropy entropy) =
      (r.runTests testset names state).withEntropy entropy := by
  induction names generalizing state with
  | nil => rfl
  | cons name rest ih =>
    rw [runTests, runTests]
    cases r.suite.find? name with
    | none =>
      simp only [ih]
      rfl
    | some test =>
      simp only [invoke_withEntropy, Invocation.withEntropy_state, Invocation.withEntropy_failure,
        ih]
      split <;> rfl

theorem runUpToTeardown_withEntropy (testset : String) (names : List String)
    (state : RunState T C W) :
    r.runUpToTeardown testset names (state.withEntropy entropy) =
      (r.runUpToTeardown testset names state).withEntropy entropy := by
  simp only [runUpToTeardown, invoke_withEntropy, Invocation.withEntropy_state,
    Invocation.withEntropy_failure, runTests_withEntropy]
  split <;> rfl

/-- The generator of a run has no part in it, and comes out of it as it was. -/
theorem run_withEntropy (names : List String) (progress : Option Progress)
    (state : RunState T C W) :
    r.run names progress (state.withEntropy entropy) =
      (r.run names progress state).withEntropy entropy := by
  have hname : (state.withEntropy entropy).stage = state.stage := rfl
  simp only [run, hname, runUpToTeardown_withEntropy, RunResult.withEntropy_state,
    invoke_withEntropy]
  rfl

end entropy

end Runner

/-! ### What is told of tests -/

/-- Whatever the body is called on, the same is told of its ending, as long as it is given the same
generator. -/
def Body.DependsOnDraws (tell : Option String → Ending T C W → α) (body : Body T C W) : Prop :=
  ∀ config generator stage stage' panicSite panicSite',
    tell panicSite (body config generator stage) = tell panicSite' (body config generator stage')

/-- What is told of the tests among calls, in order, each with the place on record before it. -/
def Call.told (tell : Option String → Ending T C W → α) (panicSite : Option String) :
    List (Call T C W) → List (Site × α)
  | [] => []
  | call :: rest =>
    (if call.site.isTest then [(call.site, tell panicSite call.ending)] else []) ++
      told tell (call.panicSiteAfter panicSite) rest

section

variable {tell : Option String → Ending T C W → α} {panicSite : Option String} {call : Call T C W}
  {rest : List (Call T C W)}

theorem Call.told_of_isTest (hsite : call.site.isTest = true) :
    Call.told tell panicSite (call :: rest) =
      (call.site, tell panicSite call.ending) ::
        Call.told tell (call.panicSiteAfter panicSite) rest := by
  rw [told, if_pos hsite]
  rfl

theorem Call.told_of_not_isTest (hsite : call.site.isTest = false) :
    Call.told tell panicSite (call :: rest) =
      Call.told tell (call.panicSiteAfter panicSite) rest := by
  rw [told, hsite]
  rfl

/-- A call that is no test's adds nothing at the end. -/
theorem Call.told_concat (hsite : call.site.isTest = false) :
    Call.told tell panicSite (rest ++ [call]) = Call.told tell panicSite rest := by
  induction rest generalizing panicSite with
  | nil => exact told_of_not_isTest hsite
  | cons first rest ih => rw [List.cons_append, told, ih, told]

end

namespace Runner

/-- What is told of the tests of a run, in order. -/
def told (r : Runner T C W) (tell : Option String → Ending T C W → α) (names : List String)
    (progress : Option Progress) (state : RunState T C W) : List (Site × α) :=
  Call.told tell state.panicSite (r.calls names progress state)

/-- What is told of a test that is called alone, right at the start of the run. Nothing is, if no
test bears the name or if setup does not pass. -/
def replayed (r : Runner T C W) (tell : Option String → Ending T C W → α)
    (state : RunState T C W) (name : String) : Option (Site × α) :=
  if (r.call .setup r.suite.setup state.stage).Passed then
    (r.suite.locate? name).map fun (test, place) =>
      (.test place name,
        tell state.panicSite (r.call (.test place name) test.body state.stage).ending)
  else none

/-- Every test teardown among the calls passed. -/
def TestTeardownsPass (calls : List (Call T C W)) : Prop :=
  ∀ call ∈ calls, call.site = .testTeardown → call.Passed

section

variable {r : Runner T C W} {names : List String} {stage last : Stage T C W}
  {history : List (Happening T C W)} {notRan : List NotRan}
  {tell : Option String → Ending T C W → α}

/-- The tests of a run are as each is alone, if none is left out. -/
theorem Testing.told_eq (h : r.Testing names stage history notRan last)
    (htests : ∀ test ∈ r.suite.tests, test.body.DependsOnDraws tell)
    (hpass : TestTeardownsPass (Happening.calls history)) (panicSite : Option String)
    (state : RunState T C W) (hsetup : (r.call .setup r.suite.setup state.stage).Passed) :
    Call.told tell panicSite (Happening.calls history) =
      names.filterMap (r.replayed tell state) := by
  induction h generalizing panicSite with
  | done => rfl
  | @unknown name rest _ _ _ _ hname _ ih =>
    have hnone : r.replayed tell state name = none := by
      rw [replayed, if_pos hsetup, hname]
      rfl
    rw [List.filterMap_cons_none hnone]
    exact ih hpass panicSite
  | @tested name rest stage test place run after history _ _ hname hrun hafter _ _ ih =>
    have hmem : test ∈ r.suite.tests :=
      List.mem_of_find?_eq_some (Testset.find?_of_some hname)
    have hrest : TestTeardownsPass (Happening.calls history) :=
      fun call hcall => hpass call (List.mem_cons_of_mem _ (List.mem_cons_of_mem _ hcall))
    have hsite : run.site = .test place name := by rw [hrun, call_site]
    -- The test draws under the same seed here and alone, and the rest of its call is not told.
    have htold : r.replayed tell state name = some (run.site, tell panicSite run.ending) := by
      rw [replayed, if_pos hsetup, hname, hsite, hrun]
      exact congrArg (fun told => some (Site.test place name, told))
        (htests test hmem r.config _ state.stage stage state.panicSite panicSite)
    rw [List.filterMap_cons_some htold, Happening.calls_called,
      Call.told_of_isTest (isTest_of_call hrun), Happening.calls_called,
      Call.told_of_not_isTest (isTest_of_call hafter), ih hrest]
  | @stopped _ _ _ _ _ run after _ _ hafter hfailed =>
    have hsite : after.site = .testTeardown := by rw [hafter, call_site]
    exact absurd (hpass after (by simp) hsite) hfailed

theorem Course.told_eq {state : RunState T C W}
    (h : r.Course names state.stage history notRan last)
    (htests : ∀ test ∈ r.suite.tests, test.body.DependsOnDraws tell)
    (hpass : TestTeardownsPass (Happening.calls history)) (panicSite : Option String) :
    Call.told tell panicSite (Happening.calls history) =
      names.filterMap (r.replayed tell state) := by
  cases h with
  | skipped hsetup hfailed hteardown =>
    have hnone : r.replayed tell state = fun _ => none := by
      funext name
      rw [replayed, ← hsetup, if_neg hfailed]
    rw [hnone, List.filterMap_none, Happening.calls_called,
      Call.told_of_not_isTest (isTest_of_call hsetup), Happening.calls_called,
      Call.told_of_not_isTest (isTest_of_call hteardown)]
    rfl
  | @tested setup teardown history _ _ hsetup hpassed htests' hteardown =>
    rw [Happening.calls_around] at hpass ⊢
    have hinner : TestTeardownsPass (Happening.calls history) :=
      fun call hcall => hpass call (List.mem_cons_of_mem _ (List.mem_append_left _ hcall))
    rw [Call.told_of_not_isTest (isTest_of_call hsetup),
      Call.told_concat (isTest_of_call hteardown)]
    exact htests'.told_eq htests hinner _ state (hsetup ▸ hpassed)

end

/-- **Replay.** Under one seed, every body is given the generator of its phase's link, whatever the
run was before. So the generator of the run has no part in what the run comes to; and where what is
told of tests depends on the generator alone, a selection of tests is told of as in the full run,
each as if it were alone. -/
theorem draws_are_replayed (r : Runner T C W) (hdry : r.config.dryRun = false) (seed : Seed)
    (hchain : r.chain = .ofSeed seed) (progress : Option Progress) :
    (∀ names state, ∀ call ∈ r.calls names progress state,
        call.generator = .ofSeed (call.site.link seed)) ∧
      (∀ names stage panicSite entropy entropy',
        let first := r.run names progress ⟨stage, entropy, panicSite⟩
        let second := r.run names progress ⟨stage, entropy', panicSite⟩
        first.outcome = second.outcome ∧ first.printed = second.printed ∧
          first.state.stage = second.state.stage ∧
          first.state.panicSite = second.state.panicSite) ∧
      ∀ {α : Type} (tell : Option String → Ending T C W → α),
        (∀ test ∈ r.suite.tests, test.body.DependsOnDraws tell) →
          ∀ names selected state, selected.Sublist names →
            TestTeardownsPass (r.calls names progress state) →
              TestTeardownsPass (r.calls selected progress state) →
                r.told tell names progress state = names.filterMap (r.replayed tell state) ∧
                  r.told tell selected progress state =
                    selected.filterMap (r.replayed tell state) ∧
                  (r.told tell selected progress state).Sublist
                    (r.told tell names progress state) := by
  refine ⟨?_, ?_, ?_⟩
  · intro names state call hmem
    obtain ⟨history, notRan, last, hcourse⟩ := r.exists_course names state.stage
    rw [hcourse.calls_run hdry progress] at hmem
    rw [hcourse.generator_eq call hmem, hchain, Site.seed_phase]
  · intro names stage panicSite entropy entropy' first second
    have hsecond : second = first.withEntropy entropy' :=
      r.run_withEntropy entropy' names progress ⟨stage, entropy, panicSite⟩
    rw [hsecond]
    exact ⟨rfl, rfl, rfl, rfl⟩
  · intro α tell htests names selected state hselected hnames hpass
    have htold (names : List String) (hpass : TestTeardownsPass (r.calls names progress state)) :
        r.told tell names progress state = names.filterMap (r.replayed tell state) := by
      obtain ⟨history, notRan, last, hcourse⟩ := r.exists_course names state.stage
      rw [hcourse.calls_run hdry progress] at hpass
      rw [told, hcourse.calls_run hdry progress]
      exact hcourse.told_eq htests hpass state.panicSite
    rw [htold names hnames, htold selected hpass]
    exact ⟨rfl, rfl, hselected.filterMap _⟩

end Runner

/-- A body that draws once, and passes if an even word comes. -/
def Body.drawing : Body T C W :=
  fun _ generator stage =>
    { verdict := if generator.peek % 2 = 0 then .passed else .failed (.message "odd")
      stage
      generator := generator.nextWord.2
      printed := ""
      elapsed := .zero
      raisedAt := none }

namespace Runner

/-- Two tests that draw, and three bodies that pass. -/
def sampleDraws : Runner Nat Unit Unit where
  config := .plain
  suite :=
    { typeName := "Sample"
      name := fun _ => "Sample"
      create := fun _ => 0
      requirements := []
      tests := [⟨"a", .drawing⟩, ⟨"b", .drawing⟩]
      setup := .counting fun _ => .passed
      teardown := .counting fun _ => .passed
      testTeardown := .counting fun _ => .passed }
  chain := .ofSeed (.ofUInt64 0)
  intercept := true

/-- A verdict that is drawn is replayed, whichever other tests there are. -/
theorem sample_draws_are_replayed :
    sampleDraws.config.dryRun = false ∧ sampleDraws.chain = .ofSeed (.ofUInt64 0) ∧
      (∀ test ∈ sampleDraws.suite.tests,
        test.body.DependsOnDraws fun _ ending => ending.verdict) ∧
      ["a"].Sublist ["b", "x", "a"] ∧
      TestTeardownsPass (sampleDraws.calls ["b", "x", "a"] none sampleState) ∧
      TestTeardownsPass (sampleDraws.calls ["a"] none sampleState) ∧
      (sampleDraws.told (fun _ ending => ending.verdict) ["a"] none sampleState).Sublist
        (sampleDraws.told (fun _ ending => ending.verdict) ["b", "x", "a"] none sampleState) ∧
      (sampleDraws.told (fun _ ending => ending.verdict) ["a"] none sampleState).map Prod.fst =
        [.test 0 "a"] := by
  have htests : ∀ test ∈ sampleDraws.suite.tests,
      test.body.DependsOnDraws fun _ ending => ending.verdict := by
    simp only [sampleDraws, List.forall_mem_cons]
    exact ⟨fun _ _ _ _ _ _ => rfl, fun _ _ _ _ _ _ => rfl, by simp⟩
  have hselected : ["a"].Sublist ["b", "x", "a"] := by decide
  have hnames : TestTeardownsPass (sampleDraws.calls ["b", "x", "a"] none sampleState) := by
    unfold TestTeardownsPass
    decide +kernel
  have hpass : TestTeardownsPass (sampleDraws.calls ["a"] none sampleState) := by
    unfold TestTeardownsPass
    decide +kernel
  obtain ⟨-, -, hreplayed⟩ := sampleDraws.draws_are_replayed rfl (.ofUInt64 0) rfl none
  obtain ⟨-, -, hsublist⟩ :=
    hreplayed (fun _ ending => ending.verdict) htests _ _ sampleState hselected hnames hpass
  exact ⟨rfl, rfl, htests, hselected, hnames, hpass, hsublist, rfl⟩

end Runner

end Testbed
