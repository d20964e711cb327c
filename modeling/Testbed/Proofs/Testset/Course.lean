import Testbed.Proofs.Testset.Calls

/-!
# The course of a run

What happens in a run is laid down before any body is known: setup once; then, if it passed, each
requested test that is registered and the test teardown after it, until a test teardown does not
pass; then teardown once. Only where the run branches do the bodies have a say, and then each on
the state that the bodies before it have left.

`Runner.Testing` and `Runner.Course` say this as relations, with the stage threaded from call to
call. They know nothing of outcomes, text or generators, and are tied to the run by the notes
that its bodies take.

An unregistered name makes no call. It still has a place in the history, since it is listed among
the errors in order with the calls that fail.

## Main definitions

* `Happening` — a call, or a name that no test bears
* `Runner.Testing` — the tests, up to the first test teardown that does not pass
* `Runner.Course` — a whole run
* `Runner.Makes` — the calls that a run can make

## Main results

* `Runner.Course.makes` — the calls of a course are among them
* `Runner.exists_course` — every run has a course
* `Runner.Course.calls_run`, `Runner.Course.stage_run` — the calls of a run, and the stage it
  leaves, are read off any course of it
* `Runner.calls_follow_course` — the calls of a run are those of its course
-/

namespace Testbed

variable {E T C W : Type}

/-- Something that happens in a run. -/
inductive Happening (T C W : Type) where
  | called (call : Call T C W)
  /-- A name was requested that no test bears. -/
  | unknown (name : String)

/-- The calls of a history, in order. -/
def Happening.calls (history : List (Happening T C W)) : List (Call T C W) :=
  history.filterMap fun
    | .called call => some call
    | .unknown _ => none

@[simp] theorem Happening.calls_nil : calls ([] : List (Happening T C W)) = [] := rfl

@[simp] theorem Happening.calls_called (call : Call T C W) (history : List (Happening T C W)) :
    calls (.called call :: history) = call :: calls history := rfl

@[simp] theorem Happening.calls_unknown (name : String) (history : List (Happening T C W)) :
    calls (.unknown name :: history) = calls history := rfl

@[simp] theorem Happening.calls_append (h₁ h₂ : List (Happening T C W)) :
    calls (h₁ ++ h₂) = calls h₁ ++ calls h₂ :=
  List.filterMap_append ..

/-- The calls of a whole run are those of its tests, and one on either side. -/
theorem Happening.calls_around (setup teardown : Call T C W) (history : List (Happening T C W)) :
    calls (.called setup :: history ++ [.called teardown]) =
      setup :: (calls history ++ [teardown]) := by
  simp

namespace Runner

/-! ### The relations -/

/-- `r.Testing names stage history notRan last`: on `stage` the tests of `names` are run, up to
the first test teardown that does not pass. `history` is what happens, `notRan` what is left out,
and `last` the stage that is left. -/
inductive Testing (r : Runner T C W) :
    List String → Stage T C W → List (Happening T C W) → List NotRan → Stage T C W → Prop where
  | done {stage} : Testing r [] stage [] [] stage
  /-- A name that no test bears makes no call, and the names after it have their turn. -/
  | unknown {name rest stage history notRan last} (hname : r.suite.locate? name = none)
      (hrest : Testing r rest stage history notRan last) :
      Testing r (name :: rest) stage (.unknown name :: history) notRan last
  /-- However the test ends, the test teardown is next; if it passes, the run goes on. -/
  | tested {name rest stage test place run after history notRan last}
      (hname : r.suite.locate? name = some (test, place))
      (hrun : run = r.call (.test place name) test.body stage)
      (hafter : after = r.call .testTeardown r.suite.testTeardown run.ending.stage)
      (hpassed : after.Passed)
      (hrest : Testing r rest after.ending.stage history notRan last) :
      Testing r (name :: rest) stage (.called run :: .called after :: history) notRan last
  /-- A test teardown that does not pass is the end of the tests. -/
  | stopped {name rest stage test place run after}
      (hname : r.suite.locate? name = some (test, place))
      (hrun : run = r.call (.test place name) test.body stage)
      (hafter : after = r.call .testTeardown r.suite.testTeardown run.ending.stage)
      (hfailed : ¬ after.Passed) :
      Testing r (name :: rest) stage [.called run, .called after]
        (Outcome.leaveOut rest testTeardownFailed) after.ending.stage

/-- `r.Course names stage history notRan last`: a whole run on `stage`, with teardown at its end
whatever was before. -/
inductive Course (r : Runner T C W) (names : List String) (stage : Stage T C W) :
    List (Happening T C W) → List NotRan → Stage T C W → Prop where
  /-- A setup that does not pass leaves out all tests. -/
  | skipped {setup teardown} (hsetup : setup = r.call .setup r.suite.setup stage)
      (hfailed : ¬ setup.Passed)
      (hteardown : teardown = r.call .teardown r.suite.teardown setup.ending.stage) :
      Course r names stage [.called setup, .called teardown]
        (Outcome.leaveOut names setupFailed) teardown.ending.stage
  | tested {setup teardown history notRan last}
      (hsetup : setup = r.call .setup r.suite.setup stage) (hpassed : setup.Passed)
      (htests : Testing r names setup.ending.stage history notRan last)
      (hteardown : teardown = r.call .teardown r.suite.teardown last) :
      Course r names stage (.called setup :: history ++ [.called teardown]) notRan
        teardown.ending.stage

/-! ### The calls of a course -/

theorem call_site (r : Runner T C W) (site : Site) (body : Body T C W) (stage : Stage T C W) :
    (r.call site body stage).site = site := rfl

/-- The calls that a run can make: of setup, of a test at its place, and of the two teardowns, on
any stage. -/
inductive Makes (r : Runner T C W) : Call T C W → Prop where
  | setup (stage) : Makes r (r.call .setup r.suite.setup stage)
  | test {name test place} (hname : r.suite.locate? name = some (test, place)) (stage) :
      Makes r (r.call (.test place name) test.body stage)
  | testTeardown (stage) : Makes r (r.call .testTeardown r.suite.testTeardown stage)
  | teardown (stage) : Makes r (r.call .teardown r.suite.teardown stage)

theorem Testing.makes {r : Runner T C W} {names : List String} {stage last : Stage T C W}
    {history : List (Happening T C W)} {notRan : List NotRan}
    (h : r.Testing names stage history notRan last) :
    ∀ call ∈ Happening.calls history, r.Makes call := by
  induction h with
  | done => simp
  | unknown _ _ ih => exact ih
  | tested hname hrun hafter _ _ ih =>
    subst hrun hafter
    simp only [Happening.calls_called, List.forall_mem_cons]
    exact ⟨.test hname _, .testTeardown _, ih⟩
  | stopped hname hrun hafter _ =>
    subst hrun hafter
    exact List.forall_mem_cons.mpr
      ⟨.test hname _, List.forall_mem_singleton.mpr (.testTeardown _)⟩

/-- Every call of a course is one that the run can make, so what is to hold of them all is shown by
cases on `Makes`. -/
theorem Course.makes {r : Runner T C W} {names : List String} {stage last : Stage T C W}
    {history : List (Happening T C W)} {notRan : List NotRan}
    (h : r.Course names stage history notRan last) :
    ∀ call ∈ Happening.calls history, r.Makes call := by
  cases h with
  | skipped hsetup _ hteardown =>
    subst hsetup hteardown
    exact List.forall_mem_cons.mpr ⟨.setup _, List.forall_mem_singleton.mpr (.teardown _)⟩
  | tested hsetup _ htests hteardown =>
    subst hsetup hteardown
    rw [Happening.calls_around, List.forall_mem_cons, List.forall_mem_append,
      List.forall_mem_singleton]
    exact ⟨.setup _, htests.makes, .teardown _⟩

/-! ### What a course begins with -/

theorem Testing.site_ne_setup {r : Runner T C W} {names : List String} {stage last : Stage T C W}
    {history : List (Happening T C W)} {notRan : List NotRan}
    (h : r.Testing names stage history notRan last) :
    ∀ call ∈ Happening.calls history, call.site ≠ .setup := by
  induction h with
  | done => simp
  | unknown _ _ ih => exact ih
  | tested _ hrun hafter _ _ ih =>
    simp only [Happening.calls_called, List.forall_mem_cons]
    exact ⟨by simp [hrun, call_site], by simp [hafter, call_site], ih⟩
  | stopped _ hrun hafter _ => simp [hrun, hafter, call_site]

/-- A course begins with the call of setup, and that is the only one. -/
theorem Course.calls_eq {r : Runner T C W} {names : List String} {stage last : Stage T C W}
    {history : List (Happening T C W)} {notRan : List NotRan}
    (h : r.Course names stage history notRan last) :
    ∃ rest, Happening.calls history = r.call .setup r.suite.setup stage :: rest ∧
      ∀ call ∈ rest, call.site ≠ .setup := by
  cases h with
  | @skipped setup teardown hsetup _ hteardown =>
    subst hsetup
    exact ⟨[teardown], rfl, by simp [hteardown, call_site]⟩
  | @tested setup teardown history _ _ hsetup _ htests hteardown =>
    subst hsetup
    refine ⟨Happening.calls history ++ [teardown], by simp, ?_⟩
    intro call hmem
    rcases List.mem_append.mp hmem with hmem | hmem
    · exact htests.site_ne_setup call hmem
    · rw [List.mem_singleton.mp hmem, hteardown, call_site]
      simp

/-! ### Every run has a course -/

theorem exists_testing (r : Runner T C W) (names : List String) (stage : Stage T C W) :
    ∃ history notRan last, r.Testing names stage history notRan last := by
  induction names generalizing stage with
  | nil => exact ⟨[], [], stage, .done⟩
  | cons name rest ih =>
    cases hname : r.suite.locate? name with
    | none =>
      obtain ⟨history, notRan, last, hrest⟩ := ih stage
      exact ⟨_, _, _, .unknown hname hrest⟩
    | some found =>
      let run := r.call (.test found.2 name) found.1.body stage
      let after := r.call .testTeardown r.suite.testTeardown run.ending.stage
      by_cases hpassed : after.Passed
      · obtain ⟨history, notRan, last, hrest⟩ := ih after.ending.stage
        exact ⟨_, _, _, .tested hname rfl rfl hpassed hrest⟩
      · exact ⟨_, _, _, .stopped hname rfl rfl hpassed⟩

theorem exists_course (r : Runner T C W) (names : List String) (stage : Stage T C W) :
    ∃ history notRan last, r.Course names stage history notRan last := by
  let setup := r.call .setup r.suite.setup stage
  by_cases hpassed : setup.Passed
  · obtain ⟨history, notRan, last, htests⟩ := r.exists_testing names setup.ending.stage
    exact ⟨_, _, _, .tested rfl hpassed htests rfl⟩
  · exact ⟨_, _, _, .skipped rfl hpassed rfl⟩

/-! ### The notes of a run are its course

The induction is on the derivation, and the run that takes notes follows it: its state is on the
stage of the derivation, seen without the notes. -/

section notes

variable {r : Runner T C W} {names : List String} {stage last : Stage T C W}
  {history : List (Happening T C W)} {notRan : List NotRan}

/-- A test and its teardown add two notes. -/
theorem invoke_twice_noting {note : Call T C W → E} {place : Nat} {name : String}
    {test : TestCase T C W} {run after : Call T C W} {state : RunState T C (Noted E W)}
    {made₁ made₂ : Invocation T C (Noted E W)} (hdry : r.config.dryRun = false)
    (hstage : state.stage.seen Noted.view = stage)
    (hrun : run = r.call (.test place name) test.body stage)
    (hafter : after = r.call .testTeardown r.suite.testTeardown run.ending.stage)
    (hmade₁ : (r.noting note).invoke (.test name) (test.body.noting note (.test place name)) state =
      made₁)
    (hmade₂ : (r.noting note).invoke .testTeardown (r.noting note).suite.testTeardown made₁.state =
      made₂) :
    (made₂.failure = none ↔ after.Passed) ∧ made₂.state.stage.seen Noted.view = after.ending.stage ∧
      made₂.state.stage.world.notes = state.stage.world.notes ++ [note run, note after] := by
  obtain ⟨-, hstage₁, hnotes₁⟩ := invoke_noting hdry rfl hstage hrun hmade₁
  obtain ⟨hnone, hstage₂, hnotes₂⟩ := invoke_noting hdry rfl hstage₁ hafter hmade₂
  refine ⟨hnone, hstage₂, ?_⟩
  rw [hnotes₂, hnotes₁, List.append_assoc]
  rfl

theorem Testing.runTests_noting (h : r.Testing names stage history notRan last)
    (hdry : r.config.dryRun = false) (note : Call T C W → E) (testset : String)
    (state : RunState T C (Noted E W)) (hstage : state.stage.seen Noted.view = stage) :
    let after := ((r.noting note).runTests testset names state).state
    after.stage.seen Noted.view = last ∧
      after.stage.world.notes = state.stage.world.notes ++ (Happening.calls history).map note := by
  induction h generalizing state with
  | done => exact ⟨hstage, by simp [runTests]⟩
  | unknown hname _ ih =>
    rw [runTests_of_unknown (noting_find?_of_none hname note)]
    exact ih state hstage
  -- The hypothesis goes on from the state that the two phases leave, on the stage of `after`.
  | tested hname hrun hafter hpassed _ ih =>
    have hfind := noting_find?_of_some hname note
    obtain ⟨hnone, hstage', hnotes'⟩ := invoke_twice_noting hdry hstage hrun hafter rfl rfl
    rw [runTests_of_success hfind rfl rfl (hnone.mpr hpassed)]
    obtain ⟨hlast, hnotes⟩ := ih _ hstage'
    refine ⟨hlast, ?_⟩
    rw [hnotes, hnotes']
    simp
  | stopped hname hrun hafter hfailed =>
    have hfind := noting_find?_of_some hname note
    obtain ⟨hnone, hstage', hnotes'⟩ := invoke_twice_noting hdry hstage hrun hafter rfl rfl
    obtain ⟨failure, hfailure⟩ := Option.ne_none_iff_exists'.mp (mt hnone.mp hfailed)
    rw [runTests_of_failure hfind rfl rfl hfailure]
    exact ⟨hstage', hnotes'⟩

/-- Teardown adds the last note. -/
theorem run_noting_of_before {note : Call T C W → E} {progress : Option Progress}
    {state before : RunState T C (Noted E W)} {calls : List (Call T C W)} {teardown : Call T C W}
    (hdry : r.config.dryRun = false)
    (hbefore : ((r.noting note).runUpToTeardown (r.suite.name state.stage.testset) names
      state).state = before)
    (hlast : before.stage.seen Noted.view = last)
    (hnotes : before.stage.world.notes = state.stage.world.notes ++ calls.map note)
    (hteardown : teardown = r.call .teardown r.suite.teardown last) :
    let after := ((r.noting note).run names progress state).state
    after.stage.seen Noted.view = teardown.ending.stage ∧
      after.stage.world.notes = state.stage.world.notes ++ (calls ++ [teardown]).map note := by
  obtain ⟨made, hmade⟩ : ∃ made, (r.noting note).invoke .teardown
    (r.noting note).suite.teardown before = made := ⟨_, rfl⟩
  have hrun : ((r.noting note).run names progress state).state = made.state := by
    rw [← hmade, ← hbefore]
    rfl
  obtain ⟨-, hstage', hnotes'⟩ := invoke_noting hdry rfl hlast hteardown hmade
  simp only [hrun]
  refine ⟨hstage', ?_⟩
  rw [hnotes', hnotes]
  simp

theorem Course.run_noting (h : r.Course names stage history notRan last)
    (hdry : r.config.dryRun = false) (note : Call T C W → E) (progress : Option Progress)
    (state : RunState T C (Noted E W)) (hstage : state.stage.seen Noted.view = stage) :
    let after := ((r.noting note).run names progress state).state
    after.stage.seen Noted.view = last ∧
      after.stage.world.notes = state.stage.world.notes ++ (Happening.calls history).map note := by
  obtain ⟨made, hmade⟩ : ∃ made, (r.noting note).invoke .setup
    (r.noting note).suite.setup state = made := ⟨_, rfl⟩
  cases h with
  | @skipped setup teardown hsetup hfailed hteardown =>
    obtain ⟨hnone, hstage', hnotes'⟩ := invoke_noting hdry rfl hstage hsetup hmade
    obtain ⟨failure, hfailure⟩ := Option.ne_none_iff_exists'.mp (mt hnone.mp hfailed)
    refine run_noting_of_before hdry ?_ hstage'
      (show _ = state.stage.world.notes ++ [setup].map note from hnotes') hteardown
    rw [runUpToTeardown_of_failure hmade hfailure]
  | @tested setup teardown history _ _ hsetup hpassed htests hteardown =>
    obtain ⟨hnone, hstage', hnotes'⟩ := invoke_noting hdry rfl hstage hsetup hmade
    obtain ⟨hlast, hnotes⟩ := htests.runTests_noting hdry note
      (r.suite.name state.stage.testset) made.state hstage'
    rw [Happening.calls_around, ← List.cons_append]
    refine run_noting_of_before hdry ?_ hlast ?_ hteardown
    · rw [runUpToTeardown_of_success hmade (hnone.mpr hpassed)]
    · rw [hnotes, hnotes']
      simp

theorem Course.stage_run {state : RunState T C W}
    (h : r.Course names state.stage history notRan last) (hdry : r.config.dryRun = false)
    (progress : Option Progress) : (r.run names progress state).state.stage = last := by
  obtain ⟨hlast, -⟩ := h.run_noting hdry id progress (state.unnoted _) rfl
  rw [← hlast, ← RunState.seen_stage, ← RunResult.seen_state, run_noting_seen]
  rfl

/-- The calls of a run are those of its course. -/
theorem Course.calls_run {state : RunState T C W}
    (h : r.Course names state.stage history notRan last) (hdry : r.config.dryRun = false)
    (progress : Option Progress) : r.calls names progress state = Happening.calls history := by
  obtain ⟨-, hnotes⟩ := h.run_noting hdry id progress (state.unnoted _) rfl
  rw [calls, hnotes, List.map_id]
  rfl

end notes

/-- **The lifecycle.** The calls of a run are those of its course: setup once; then, only if it
passed, each requested test that is registered and the test teardown after it, in order, up to
the first test teardown that does not pass; then teardown. Each is made on what the calls before
it have left, and the last one leaves what the run leaves. -/
theorem calls_follow_course (r : Runner T C W) (hdry : r.config.dryRun = false)
    (names : List String) (progress : Option Progress) (state : RunState T C W) :
    ∃ history notRan,
      r.Course names state.stage history notRan (r.run names progress state).state.stage ∧
        r.calls names progress state = Happening.calls history := by
  obtain ⟨history, notRan, last, hcourse⟩ := r.exists_course names state.stage
  rw [hcourse.stage_run hdry progress, hcourse.calls_run hdry progress]
  exact ⟨history, notRan, hcourse, rfl⟩

/-- The second test teardown of the sample panics, so the last name has no turn. -/
theorem sample_calls_follow_course :
    sample.config.dryRun = false ∧
      (∃ history notRan,
        sample.Course ["b", "x", "a", "b"] sampleState.stage history notRan
            (sample.run ["b", "x", "a", "b"] none sampleState).state.stage ∧
          sample.calls ["b", "x", "a", "b"] none sampleState = Happening.calls history) ∧
      (sample.calls ["b", "x", "a", "b"] none sampleState).map Call.site =
        [.setup, .test 1 "b", .testTeardown, .test 0 "a", .testTeardown, .teardown] :=
  ⟨rfl, sample.calls_follow_course rfl ["b", "x", "a", "b"] none sampleState, rfl⟩

end Runner

end Testbed
