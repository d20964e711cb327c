import Testbed.Proofs.View

/-!
# Two runs side by side

Two runs of one testset are alike if each phase comes to the same in both, but for the text that
is printed and the generator that is left alone. Then they make the same way through the tests and
have the same outcome. How the texts of two phases must be related is left open: it is enough that
texts which are related one after the other are related as a whole.

What goes wrong in a run, and where panics were raised, is printed later or elsewhere. So a
likeness also says what the errors and places are to be like, which is the same in both runs.

## Main definitions

* `Likeness` — what is asked of texts, errors and places
* `RunState.Alike`, `Invocation.Alike`, `RunResult.Alike` — two that are alike
* `Runner.Alike` — two runs whose phases are alike

## Main results

* `Runner.invoke_alike` — phases are alike if their calls are
* `Runner.run_alike` — runs are alike if their phases are
-/

namespace Testbed

variable {T C W : Type}

/-! ### What is asked -/

/-- What is asked of two runs that are alike: how the texts of the one are related to those of the
other, and what errors and the places of panics are in both. -/
structure Likeness where
  text : String → String → Prop
  error : TestError → Prop
  site : String → Prop
  text_empty : text "" ""
  text_append : ∀ {first first' second second'}, text first first' → text second second' →
    text (first ++ second) (first' ++ second')

/-- Both states are on one stage, with one place on record. -/
structure RunState.Alike (L : Likeness) (state state' : RunState T C W) : Prop where
  stage : state'.stage = state.stage
  panicSite : state'.panicSite = state.panicSite
  site : ∀ site ∈ state.panicSite, L.site site

/-- Both phases fail with the same error or not at all. -/
structure Invocation.Alike (L : Likeness) (made made' : Invocation T C W) : Prop where
  failure : made'.failure = made.failure
  error : ∀ error ∈ made.failure, L.error error
  state : made.state.Alike L made'.state
  printed : L.text made.printed made'.printed

/-- Both runs have one outcome. -/
structure RunResult.Alike (L : Likeness) (result result' : RunResult T C W) : Prop where
  outcome : result'.outcome = result.outcome
  error : ∀ error ∈ result.outcome.errors, L.error error
  state : result.state.Alike L result'.state
  printed : L.text result.printed result'.printed

namespace Runner

/-- On states that are alike the phase comes to what is alike. -/
def InvokedAlike (L : Likeness) (r r' : Runner T C W) (phase : Phase)
    (body body' : Body T C W) : Prop :=
  ∀ state state', state.Alike L state' →
    (r.invoke phase body state).Alike L (r'.invoke phase body' state')

/-- The two tests bear one name, and are invoked alike. -/
def TestedAlike (L : Likeness) (r r' : Runner T C W) (test test' : TestCase T C W) : Prop :=
  test.name = test'.name ∧ r.InvokedAlike L r' (.test test.name) test.body test'.body

/-- Both run a testset of one name, phase by phase alike. -/
structure Alike (L : Likeness) (r r' : Runner T C W) : Prop where
  dryRun : r'.config.dryRun = r.config.dryRun
  name : r'.suite.name = r.suite.name
  setup : r.InvokedAlike L r' .setup r.suite.setup r'.suite.setup
  tests : List.Forall₂ (r.TestedAlike L r') r.suite.tests r'.suite.tests
  testTeardown : r.InvokedAlike L r' .testTeardown r.suite.testTeardown r'.suite.testTeardown
  teardown : r.InvokedAlike L r' .teardown r.suite.teardown r'.suite.teardown

/-! ### Phases -/

/-- What a call prints in a run. `panicSite` is the place on record when it ends. -/
def callText (r : Runner T C W) (name : String) (phase : Phase) (panicSite : Option String)
    (ending : Ending T C W) : String :=
  (Status.call r.config name phase.label phase.style r.intercept
    ⟨contain ending.verdict panicSite, ending.printed⟩ ending.elapsed).text

theorem invoke_dry {r : Runner T C W} (hdry : r.config.dryRun = true) (phase : Phase)
    (body : Body T C W) (state : RunState T C W) :
    r.invoke phase body state =
      { failure := none
        state
        printed :=
          if phase.style = .statusLine then
            Status.skip r.config (r.qualified state.stage.testset phase) "dry run"
          else "" } := by
  rw [invoke, hdry]
  rfl

theorem invoke_live {r : Runner T C W} (hdry : r.config.dryRun = false) (phase : Phase)
    (body : Body T C W) (state : RunState T C W) :
    r.invoke phase body state =
      let name := r.qualified state.stage.testset phase
      let ending := body r.config (.ofSeed (phase.seed r.chain)) state.stage
      let site := ending.raisedAt.or state.panicSite
      { failure :=
          match contain ending.verdict site with
          | .ok () => none
          | .error report => some ⟨name, .raised report⟩
        state := ⟨ending.stage, state.generator, sitesAfter ending.verdict site⟩
        printed := r.callText name phase site ending } := by
  rw [invoke, hdry]
  rfl

variable {L : Likeness} {r r' : Runner T C W}

/-- Two endings of one phase come to the same on the stage from which they started, whatever place
of a panic was on record. -/
structure EndedAlike (L : Likeness) (r r' : Runner T C W) (phase : Phase) (entry : Stage T C W)
    (ending ending' : Ending T C W) : Prop where
  verdict : ending'.verdict = ending.verdict
  stage : ending'.stage = ending.stage
  raisedAt : ending'.raisedAt = ending.raisedAt
  site : ∀ site ∈ ending.raisedAt, L.site site
  error : ∀ panicSite, (∀ site ∈ panicSite, L.site site) →
    ∀ report, contain ending.verdict panicSite = .error report →
      L.error ⟨r.qualified entry.testset phase, .raised report⟩
  printed : ∀ panicSite, (∀ site ∈ panicSite, L.site site) →
    L.text (r.callText (r.qualified entry.testset phase) phase panicSite ending)
      (r'.callText (r.qualified entry.testset phase) phase panicSite ending')

/-- Phases are alike if their calls are, and in a dry run if what is said of a test is. -/
theorem invoke_alike (hdryRun : r'.config.dryRun = r.config.dryRun) (hchain : r'.chain = r.chain)
    (hname : r'.suite.name = r.suite.name) {phase : Phase} {body body' : Body T C W}
    (hskip : r.config.dryRun = true → phase.style = .statusLine → ∀ testset,
      L.text (Status.skip r.config (r.qualified testset phase) "dry run")
        (Status.skip r'.config (r.qualified testset phase) "dry run"))
    (hcall : r.config.dryRun = false → ∀ generator entry,
      r.EndedAlike L r' phase entry (body r.config generator entry)
        (body' r'.config generator entry)) :
    r.InvokedAlike L r' phase body body' := by
  intro state state' hstate
  have hqualified : r'.qualified = r.qualified := by
    funext testset phase
    rw [qualified, qualified, hname]
  cases hdry : r.config.dryRun with
  | true =>
    rw [invoke_dry hdry, invoke_dry (hdryRun.trans hdry), hstate.stage, hqualified]
    refine ⟨rfl, by simp, hstate, ?_⟩
    by_cases hstyle : phase.style = .statusLine
    · simpa only [if_pos hstyle] using hskip hdry hstyle state.stage.testset
    · simpa only [if_neg hstyle] using L.text_empty
  | false =>
    have hended := hcall hdry (.ofSeed (phase.seed r.chain)) state.stage
    rw [invoke_live hdry, invoke_live (hdryRun.trans hdry), hstate.stage, hqualified, hchain]
    generalize body r.config _ state.stage = ending at hended
    generalize body' r'.config _ state.stage = ending' at hended
    have hsite : ∀ site ∈ ending.raisedAt.or state.panicSite, L.site site := by
      intro site hmem
      rcases Option.or_eq_some_iff.mp hmem with hmem | ⟨-, hmem⟩
      · exact hended.site site hmem
      · exact hstate.site site hmem
    simp only [hended.verdict, hended.stage, hended.raisedAt, hstate.panicSite]
    refine ⟨rfl, ?_, ⟨rfl, rfl, ?_⟩, hended.printed _ hsite⟩
    · intro error hmem
      cases hvalue : contain ending.verdict (ending.raisedAt.or state.panicSite) with
      | ok _ =>
        rw [hvalue] at hmem
        cases hmem
      | error report =>
        rw [hvalue] at hmem
        cases hmem
        exact hended.error _ hsite report hvalue
    · intro site hmem
      refine hsite site ?_
      cases hverdict : ending.verdict with
      | panicked _ =>
        rw [hverdict] at hmem
        cases hmem
      | _ =>
        rw [hverdict] at hmem
        exact hmem

/-! ### Runs -/

theorem Alike.attempted (h : r.Alike L r') : r'.attempted = r.attempted := by
  rw [Runner.attempted, Runner.attempted, h.dryRun]

/-- A name leads both to alike tests, or both to none. -/
theorem Alike.find? (h : r.Alike L r') (name : String) :
    (r.suite.find? name = none ∧ r'.suite.find? name = none) ∨
      ∃ test test', r.suite.find? name = some test ∧ r'.suite.find? name = some test' ∧
        r.TestedAlike L r' test test' := by
  have hfound := Testset.find?_rel (R := r.TestedAlike L r') And.left h.tests name
  generalize r.suite.find? name = found, r'.suite.find? name = found' at hfound
  cases hfound with
  | none => exact .inl ⟨rfl, rfl⟩
  | some htest => exact .inr ⟨_, _, rfl, rfl, htest⟩

theorem runTests_alike (h : r.Alike L r') {testset : String} {names : List String}
    (hunknown : ∀ name ∈ names, r.suite.find? name = none →
      L.error ⟨testset ++ "." ++ name, .unknownTest testset name⟩)
    {state state' : RunState T C W} (hstate : state.Alike L state') :
    (r.runTests testset names state).Alike L (r'.runTests testset names state') := by
  induction names generalizing state state' with
  | nil => exact ⟨rfl, by simp [runTests], hstate, L.text_empty⟩
  | cons name rest ih =>
    obtain ⟨hfirst, hrest⟩ := List.forall_mem_cons.mp hunknown
    rcases h.find? name with ⟨hname, hname'⟩ | ⟨test, test', hname, hname', htest, hinvoked⟩
    · obtain ⟨houtcome, herror, hlast, hprinted⟩ := ih hrest hstate
      rw [runTests_of_unknown hname, runTests_of_unknown hname']
      refine ⟨?_, List.forall_mem_cons.mpr ⟨hfirst hname, herror⟩, hlast, hprinted⟩
      simp only [houtcome]
    · -- The test teardown is alike on whatever the test leaves, so both go on or both stop.
      have hrun := hinvoked state state' hstate
      have hafter := h.testTeardown _ _ hrun.state
      rw [htest] at hrun hafter
      generalize hmade₁ : r.invoke (.test test'.name) test.body state = made₁ at hrun hafter
      generalize hmade₁' : r'.invoke (.test test'.name) test'.body state' = made₁' at hrun hafter
      generalize hmade₂ : r.invoke .testTeardown _ made₁.state = made₂ at hafter
      generalize hmade₂' : r'.invoke .testTeardown _ made₁'.state = made₂' at hafter
      have hprinted := L.text_append hrun.printed hafter.printed
      cases hfailure : made₂.failure with
      | none =>
        obtain ⟨houtcome, herror, hlast, hprinted'⟩ := ih hrest hafter.state
        rw [runTests_of_success hname (htest ▸ hmade₁) hmade₂ hfailure,
          runTests_of_success hname' hmade₁' hmade₂' (hafter.failure.trans hfailure)]
        refine ⟨?_, ?_, hlast, L.text_append hprinted hprinted'⟩
        · simp only [houtcome, hrun.failure, h.attempted]
        · exact List.forall_mem_append.mpr ⟨by simpa using hrun.error, herror⟩
      | some failure =>
        rw [runTests_of_failure hname (htest ▸ hmade₁) hmade₂ hfailure,
          runTests_of_failure hname' hmade₁' hmade₂' (hafter.failure.trans hfailure)]
        refine ⟨?_, ?_, hafter.state, hprinted⟩
        · simp only [hrun.failure, h.attempted]
        · have hlast := hafter.error failure hfailure
          exact List.forall_mem_append.mpr ⟨by simpa using hrun.error, by simpa using hlast⟩

theorem runUpToTeardown_alike (h : r.Alike L r') {testset : String} {names : List String}
    (hunknown : ∀ name ∈ names, r.suite.find? name = none →
      L.error ⟨testset ++ "." ++ name, .unknownTest testset name⟩)
    {state state' : RunState T C W} (hstate : state.Alike L state') :
    (r.runUpToTeardown testset names state).Alike L (r'.runUpToTeardown testset names state') := by
  have hsetup := h.setup state state' hstate
  generalize hmade : r.invoke .setup r.suite.setup state = made at hsetup
  generalize hmade' : r'.invoke .setup r'.suite.setup state' = made' at hsetup
  cases hfailure : made.failure with
  | none =>
    obtain ⟨houtcome, herror, hlast, hprinted⟩ := runTests_alike h hunknown hsetup.state
    rw [runUpToTeardown_of_success hmade hfailure,
      runUpToTeardown_of_success hmade' (hsetup.failure.trans hfailure)]
    exact ⟨houtcome, herror, hlast, L.text_append hsetup.printed hprinted⟩
  | some failure =>
    have herror := hsetup.error failure hfailure
    rw [runUpToTeardown_of_failure hmade hfailure,
      runUpToTeardown_of_failure hmade' (hsetup.failure.trans hfailure)]
    exact ⟨rfl, by simpa using herror, hsetup.state, hsetup.printed⟩

/-- Runs are alike if their phases are. -/
theorem run_alike (h : r.Alike L r') {names : List String} {progress : Option Progress}
    {state state' : RunState T C W} (hstate : state.Alike L state')
    (hheader : let name := r.suite.name state.stage.testset
      L.text (header name progress) (header name progress))
    (hunknown : let testset := r.suite.name state.stage.testset
      ∀ name ∈ names, r.suite.find? name = none →
        L.error ⟨testset ++ "." ++ name, .unknownTest testset name⟩) :
    (r.run names progress state).Alike L (r'.run names progress state') := by
  have hbefore := runUpToTeardown_alike h hunknown hstate
  have hteardown := h.teardown _ _ hbefore.state
  have hname : r'.suite.name state'.stage.testset = r.suite.name state.stage.testset := by
    rw [h.name, hstate.stage]
  rw [run, run, hname]
  refine ⟨?_, ?_, hteardown.state,
    L.text_append (L.text_append hheader hbefore.printed) hteardown.printed⟩
  · simp only [hbefore.outcome, hteardown.failure]
  · exact List.forall_mem_append.mpr ⟨hbefore.error, by simpa using hteardown.error⟩

end Runner

end Testbed
