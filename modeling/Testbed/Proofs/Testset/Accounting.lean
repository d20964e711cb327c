import Testbed.Proofs.Testset.Course

/-!
# The account of a run

What a run comes to is an account of what happened in it. Every request ends up in one of three
places: among the attempts, among the errors as a name that no test bears, or among the tests
that were left out. What went wrong is listed as it happened, one entry for each call that did
not pass and one for each name that no test bears.

The account is read off the history of the run alone. The outcome is built up by the run while it
goes, from five places; here it is said all at once.

## What is deliberately absent

A history does not say which texts a run prints, so nothing is said of them here. Nor is the
number of errors of one test bounded: a test and its teardown can both be listed.

## Main definitions

* `Happening.attempts`, `Happening.errors` — what an outcome counts and lists
* `Happening.TestsLeftOut`, `Happening.LeftOut` — which tests are left out, and why

## Main results

* `Runner.Course.outcome_run` — the outcome of a run is the account of its course
* `Runner.outcome_accounts_for_names` — no request is lost or doubled
-/

namespace Testbed

variable {T C W : Type}

/-! ### What an account says -/

/-- The body is a test's. -/
def Site.isTest : Site → Bool
  | .test .. => true
  | _ => false

/-- Setup and every test teardown among the calls passed. -/
def Call.NothingSkipped (calls : List (Call T C W)) : Prop :=
  ∀ call ∈ calls, call.site = .setup ∨ call.site = .testTeardown → call.Passed

instance (calls : List (Call T C W)) : Decidable (Call.NothingSkipped calls) :=
  inferInstanceAs (Decidable (∀ call ∈ calls, _ → _))

namespace Happening

/-- The name that was requested, unless it is a call that nobody requested. -/
def requested? : Happening T C W → Option String
  | .unknown name => some name
  | .called call =>
    match call.site with
    | .test _ name => some name
    | _ => none

/-- The names whose turn came, in order. -/
def requested (history : List (Happening T C W)) : List String :=
  history.filterMap requested?

/-- How many tests were attempted. -/
def attempts (history : List (Happening T C W)) : Nat :=
  (calls history).countP fun call => call.site.isTest

/-- What is listed of a name that no test bears. -/
def unknownError (testset name : String) : TestError :=
  ⟨testset ++ "." ++ name, .unknownTest testset name⟩

/-- What went wrong, in order. `testset` is the name of the testset at the start, and `panicSite`
the place on record then. -/
def errors (suite : Testset T C W) (testset : String) (panicSite : Option String) :
    List (Happening T C W) → List TestError
  | [] => []
  | .unknown name :: rest => unknownError testset name :: errors suite testset panicSite rest
  | .called call :: rest =>
    (call.error? suite panicSite).toList ++
      errors suite testset (call.panicSiteAfter panicSite) rest

/-- The place on record after a history. -/
def panicSiteAfter (panicSite : Option String) (history : List (Happening T C W)) :
    Option String :=
  (calls history).foldl Call.panicSiteAfter panicSite

/-- Which of the requested tests are left out when tests are run, and why. -/
inductive TestsLeftOut (names : List String) : List (Happening T C W) → List NotRan → Prop where
  /-- Every test teardown passed: none is. -/
  | none {history} (hnames : names = requested history)
      (hpassed : ∀ call ∈ calls history, call.site = .testTeardown → call.Passed) :
      TestsLeftOut names history []
  /-- A test teardown did not pass: the ones after its test are. -/
  | after (before) {run after place name rest}
      (hnames : names = requested before ++ name :: rest) (hrun : run.site = .test place name)
      (hafter : after.site = .testTeardown) (hfailed : ¬ after.Passed) :
      TestsLeftOut names (before ++ [.called run, .called after])
        (Outcome.leaveOut rest testTeardownFailed)

/-- Which of the requested tests are left out of a run, and why. -/
inductive LeftOut (names : List String) : List (Happening T C W) → List NotRan → Prop where
  /-- Setup did not pass: every test is. -/
  | all {setup teardown} (hsetup : setup.site = .setup) (hfailed : ¬ setup.Passed) :
      LeftOut names [.called setup, .called teardown] (Outcome.leaveOut names setupFailed)
  | tests {setup history teardown notRan} (hsetup : setup.site = .setup)
      (hpassed : setup.Passed) (htests : TestsLeftOut names history notRan) :
      LeftOut names (.called setup :: history ++ [.called teardown]) notRan

/-! ### Reading an account off a history -/

section

variable {history : List (Happening T C W)} {call : Call T C W} {name : String}

@[simp] theorem requested_nil : requested ([] : List (Happening T C W)) = [] := rfl

@[simp] theorem requested_unknown :
    requested (.unknown name :: history) = name :: requested history := rfl

theorem requested_test {place : Nat} (hsite : call.site = .test place name) :
    requested (.called call :: history) = name :: requested history := by
  simp [requested, requested?, hsite]

theorem requested_of_not_isTest (hsite : call.site.isTest = false) :
    requested (.called call :: history) = requested history := by
  cases h : call.site <;> simp_all [requested, requested?, Site.isTest]

@[simp] theorem attempts_unknown : attempts (.unknown name :: history) = attempts history := rfl

@[simp] theorem attempts_called :
    attempts (.called call :: history) = attempts history + if call.site.isTest then 1 else 0 := by
  rw [attempts, calls_called, List.countP_cons]
  rfl

theorem attempts_of_not_isTest (hsite : call.site.isTest = false) :
    attempts (.called call :: history) = attempts history := by
  rw [attempts_called, hsite]
  rfl

theorem attempts_append (h₁ h₂ : List (Happening T C W)) :
    attempts (h₁ ++ h₂) = attempts h₁ + attempts h₂ := by
  rw [attempts, calls_append, List.countP_append]
  rfl

/-- Setup and teardown are not requested. -/
theorem requested_around {setup teardown : Call T C W} (hsetup : setup.site.isTest = false)
    (hteardown : teardown.site.isTest = false) (history : List (Happening T C W)) :
    requested (.called setup :: history ++ [.called teardown]) = requested history := by
  have happend : requested (history ++ [.called teardown]) =
      requested history ++ requested [.called teardown] := List.filterMap_append ..
  rw [List.cons_append, requested_of_not_isTest hsetup, happend,
    requested_of_not_isTest hteardown, requested_nil, List.append_nil]

end

section errors

variable (suite : Testset T C W) (testset : String)

theorem errors_append (panicSite : Option String) (h₁ h₂ : List (Happening T C W)) :
    errors suite testset panicSite (h₁ ++ h₂) =
      errors suite testset panicSite h₁ ++
        errors suite testset (panicSiteAfter panicSite h₁) h₂ := by
  induction h₁ generalizing panicSite with
  | nil => rfl
  | cons happening rest ih =>
    cases happening with
    | unknown name =>
      rw [List.cons_append, errors, ih]
      rfl
    | called call =>
      rw [List.cons_append, errors, ih, ← List.append_assoc]
      rfl

/-- Nothing is listed just when nothing went wrong. -/
theorem errors_eq_nil_iff (panicSite : Option String) (history : List (Happening T C W)) :
    errors suite testset panicSite history = [] ↔
      (∀ call ∈ calls history, call.Passed) ∧ ∀ name, .unknown name ∉ history := by
  induction history generalizing panicSite with
  | nil => simp [errors]
  | cons happening rest ih =>
    cases happening with
    | unknown name =>
      rw [errors]
      constructor
      · intro hnil
        exact absurd hnil (List.cons_ne_nil _ _)
      · rintro ⟨-, hnone⟩
        exact absurd List.mem_cons_self (hnone name)
    | called call =>
      rw [errors, List.append_eq_nil_iff, Option.toList_eq_nil_iff, Call.error?_eq_none_iff, ih]
      simp [and_assoc]

/-- A call that did not pass is never listed as a name that no test bears. -/
theorem countP_error? (panicSite : Option String) (call : Call T C W) :
    (call.error? suite panicSite).toList.countP TestError.isUnknown = 0 := by
  rw [Call.error?]
  cases call.report? panicSite with
  | none => rfl
  | some report => rfl

/-- Each name whose turn came was attempted, or is listed as one that no test bears. -/
theorem length_requested (panicSite : Option String) (history : List (Happening T C W)) :
    (requested history).length =
      attempts history + (errors suite testset panicSite history).countP TestError.isUnknown := by
  induction history generalizing panicSite with
  | nil => rfl
  | cons happening rest ih =>
    cases happening with
    | unknown name =>
      rw [requested_unknown, List.length_cons, ih panicSite, attempts_unknown, errors,
        List.countP_cons_of_pos rfl, Nat.add_assoc]
    | called call =>
      rw [errors, List.countP_append, countP_error?, Nat.zero_add, attempts_called]
      cases hsite : call.site with
      | test place name =>
        rw [requested_test hsite, List.length_cons, ih (call.panicSiteAfter panicSite)]
        simp only [Site.isTest, if_true]
        omega
      | _ =>
        rw [requested_of_not_isTest (by rw [hsite]; rfl), ih (call.panicSiteAfter panicSite)]
        rfl

end errors

end Happening

/-! ### The outcome of a run is the account of its course -/

namespace Runner

variable {r : Runner T C W} {names : List String} {stage last : Stage T C W}
  {history : List (Happening T C W)} {notRan : List NotRan}

theorem isTest_of_call {site : Site} {body : Body T C W} {call : Call T C W}
    (hcall : call = r.call site body stage) : call.site.isTest = site.isTest := by
  rw [hcall, call_site]

/-- What a phase comes to, said by its call. -/
theorem invoke_of_call {site : Site} {phase : Phase} {body : Body T C W} {call : Call T C W}
    {state : RunState T C W} {made : Invocation T C W} (hdry : r.config.dryRun = false)
    (hphase : site.phase = phase) (hstage : state.stage = stage)
    (hcall : call = r.call site body stage) (hmade : r.invoke phase body state = made) :
    made.failure = call.error? r.suite state.panicSite ∧ made.state.stage = call.ending.stage ∧
      made.state.panicSite = call.panicSiteAfter state.panicSite := by
  subst hphase hstage hcall hmade
  refine ⟨invoke_failure hdry site body state, ?_, ?_⟩
  · rw [invoke_state hdry]
  · rw [invoke_state hdry]

/-- A test and its teardown, said by their two calls. -/
theorem invoke_twice_of_call {place : Nat} {name : String} {test : TestCase T C W}
    {run after : Call T C W} {state : RunState T C W} {made₁ made₂ : Invocation T C W}
    (hdry : r.config.dryRun = false) (hstage : state.stage = stage)
    (hname : r.suite.locate? name = some (test, place))
    (hrun : run = r.call (.test place name) test.body stage)
    (hafter : after = r.call .testTeardown r.suite.testTeardown run.ending.stage)
    (hmade₁ : r.invoke (.test test.name) test.body state = made₁)
    (hmade₂ : r.invoke .testTeardown r.suite.testTeardown made₁.state = made₂) :
    made₁.failure = run.error? r.suite state.panicSite ∧
      made₂.failure = after.error? r.suite (run.panicSiteAfter state.panicSite) ∧
      made₂.state.stage = after.ending.stage ∧
      made₂.state.panicSite = after.panicSiteAfter (run.panicSiteAfter state.panicSite) := by
  have htest : test.name = name := Testset.name_of_locate? hname
  obtain ⟨hfailure₁, hstage₁, hsite₁⟩ :=
    invoke_of_call hdry (by rw [htest]; rfl) hstage hrun hmade₁
  obtain ⟨hfailure₂, hstage₂, hsite₂⟩ := invoke_of_call hdry rfl hstage₁ hafter hmade₂
  rw [hsite₁] at hfailure₂ hsite₂
  exact ⟨hfailure₁, hfailure₂, hstage₂, hsite₂⟩

theorem attempted_of_not_dry (hdry : r.config.dryRun = false) : r.attempted = 1 := by
  rw [attempted, hdry]
  rfl

/-- A test counts as an attempt, and its teardown does not. -/
theorem attempts_tested {place : Nat} {name : String} {body body' : Body T C W}
    {stage' : Stage T C W} {run after : Call T C W}
    (hrun : run = r.call (.test place name) body stage)
    (hafter : after = r.call .testTeardown body' stage') :
    Happening.attempts (.called run :: .called after :: history) =
      1 + Happening.attempts history := by
  rw [Happening.attempts_called, Happening.attempts_called, hrun, hafter, Nat.add_comm 1]
  rfl

theorem Testing.outcome_runTests (h : r.Testing names stage history notRan last)
    (hdry : r.config.dryRun = false) (testset : String) (state : RunState T C W)
    (hstage : state.stage = stage) :
    let result := r.runTests testset names state
    result.outcome = ⟨Happening.attempts history,
        Happening.errors r.suite testset state.panicSite history, notRan⟩ ∧
      result.state.stage = last ∧
      result.state.panicSite = Happening.panicSiteAfter state.panicSite history := by
  induction h generalizing state with
  | done => exact ⟨rfl, hstage, rfl⟩
  | unknown hname _ ih =>
    obtain ⟨houtcome, hlast, hsite⟩ := ih state hstage
    rw [runTests_of_unknown (Testset.find?_of_none hname)]
    refine ⟨?_, hlast, hsite⟩
    simp only [houtcome]
    rfl
  | tested hname hrun hafter hpassed _ ih =>
    have hfind := Testset.find?_of_some hname
    obtain ⟨hfailure₁, hfailure₂, hstage', hsite'⟩ :=
      invoke_twice_of_call hdry hstage hname hrun hafter rfl rfl
    rw [(Call.error?_eq_none_iff ..).mpr hpassed] at hfailure₂
    obtain ⟨houtcome, hlast, hsite⟩ := ih _ hstage'
    -- The place of a panic is handed from call to call, so the errors of the rest go on from it.
    rw [runTests_of_success hfind rfl rfl hfailure₂]
    refine ⟨?_, hlast, by rw [hsite, hsite']; rfl⟩
    rw [Outcome.mk.injEq, attempts_tested hrun hafter, attempted_of_not_dry hdry, hfailure₁,
      houtcome, hsite', Happening.errors, Happening.errors,
      (Call.error?_eq_none_iff ..).mpr hpassed]
    exact ⟨rfl, rfl, rfl⟩
  | stopped hname hrun hafter hfailed =>
    have hfind := Testset.find?_of_some hname
    obtain ⟨hfailure₁, hfailure₂, hstage', hsite'⟩ :=
      invoke_twice_of_call hdry hstage hname hrun hafter rfl rfl
    obtain ⟨failure, hfailure⟩ := Call.exists_error? hfailed r.suite _
    rw [runTests_of_failure hfind rfl rfl (hfailure₂.trans hfailure)]
    refine ⟨?_, hstage', hsite'⟩
    rw [Outcome.mk.injEq, attempts_tested hrun hafter, attempted_of_not_dry hdry, hfailure₁]
    rw [Happening.errors, Happening.errors, hfailure]
    exact ⟨rfl, rfl, rfl⟩

/-- Teardown adds the last entry, if it adds one. -/
theorem outcome_run_of_before {progress : Option Progress} {state : RunState T C W}
    {before : RunResult T C W} {teardown : Call T C W} (hdry : r.config.dryRun = false)
    (hbefore : r.runUpToTeardown (r.suite.name state.stage.testset) names state = before)
    (houtcome : before.outcome = ⟨Happening.attempts history,
      Happening.errors r.suite (r.suite.name state.stage.testset) state.panicSite history, notRan⟩)
    (hlast : before.state.stage = last)
    (hsite : before.state.panicSite = Happening.panicSiteAfter state.panicSite history)
    (hteardown : teardown = r.call .teardown r.suite.teardown last) :
    (r.run names progress state).outcome =
      ⟨Happening.attempts (history ++ [.called teardown]),
        Happening.errors r.suite (r.suite.name state.stage.testset) state.panicSite
          (history ++ [.called teardown]), notRan⟩ := by
  obtain ⟨made, hmade⟩ : ∃ made, r.invoke .teardown r.suite.teardown before.state = made :=
    ⟨_, rfl⟩
  obtain ⟨hfailure, -, -⟩ := invoke_of_call hdry rfl hlast hteardown hmade
  have hrun : (r.run names progress state).outcome =
      ⟨before.outcome.executed, before.outcome.errors ++ made.failure.toList,
        before.outcome.notRan⟩ := by
    rw [← hmade, ← hbefore]
    rfl
  rw [hrun, houtcome, hfailure, hsite, Happening.errors_append, Happening.attempts_append,
    Happening.attempts_of_not_isTest (isTest_of_call hteardown), Happening.errors,
    Happening.errors, List.append_nil]
  rfl

/-- The outcome of a run is the account of its course. -/
theorem Course.outcome_run {state : RunState T C W}
    (h : r.Course names state.stage history notRan last) (hdry : r.config.dryRun = false)
    (progress : Option Progress) :
    (r.run names progress state).outcome =
      ⟨Happening.attempts history,
        Happening.errors r.suite (r.suite.name state.stage.testset) state.panicSite history,
        notRan⟩ := by
  obtain ⟨made, hmade⟩ : ∃ made, r.invoke .setup r.suite.setup state = made := ⟨_, rfl⟩
  cases h with
  | @skipped setup teardown hsetup hfailed hteardown =>
    obtain ⟨hfailure, hstage, hsite⟩ := invoke_of_call hdry rfl rfl hsetup hmade
    obtain ⟨failure, hsome⟩ := Call.exists_error? hfailed r.suite state.panicSite
    have houtcome : (⟨0, [failure], Outcome.leaveOut names setupFailed⟩ : Outcome) =
        ⟨Happening.attempts [.called setup],
          Happening.errors r.suite (r.suite.name state.stage.testset) state.panicSite
            [.called setup], Outcome.leaveOut names setupFailed⟩ := by
      rw [Happening.attempts_of_not_isTest (isTest_of_call hsetup), Happening.errors,
        Happening.errors, hsome]
      rfl
    exact outcome_run_of_before hdry (runUpToTeardown_of_failure hmade (hfailure.trans hsome))
      houtcome hstage hsite hteardown
  | @tested setup teardown history _ _ hsetup hpassed htests hteardown =>
    obtain ⟨hfailure, hstage, hsite⟩ := invoke_of_call hdry rfl rfl hsetup hmade
    rw [(Call.error?_eq_none_iff ..).mpr hpassed] at hfailure
    obtain ⟨houtcome, hlast, hsite'⟩ :=
      htests.outcome_runTests hdry (r.suite.name state.stage.testset) _ hstage
    rw [hsite] at houtcome hsite'
    refine outcome_run_of_before hdry (runUpToTeardown_of_success hmade hfailure) ?_ hlast hsite'
      hteardown
    rw [houtcome, Happening.attempts_of_not_isTest (isTest_of_call hsetup), Happening.errors,
      (Call.error?_eq_none_iff ..).mpr hpassed]
    rfl

/-! ### Every request has its place -/

theorem requested_tested {place : Nat} {name : String} {body body' : Body T C W}
    {stage' : Stage T C W} {run after : Call T C W}
    (hrun : run = r.call (.test place name) body stage)
    (hafter : after = r.call .testTeardown body' stage') :
    Happening.requested (.called run :: .called after :: history) =
      name :: Happening.requested history := by
  rw [Happening.requested_test (by rw [hrun]; rfl),
    Happening.requested_of_not_isTest (isTest_of_call hafter)]

/-- The tests are gone through in the order of the names, and what is left out is the end of
them. -/
theorem Testing.names_eq (h : r.Testing names stage history notRan last) :
    names = Happening.requested history ++ notRan.map NotRan.name := by
  induction h with
  | done => rfl
  | unknown _ _ ih => rw [Happening.requested_unknown, List.cons_append, ← ih]
  | tested _ hrun hafter _ _ ih =>
    rw [requested_tested hrun hafter, List.cons_append, ← ih]
  | stopped _ hrun hafter _ =>
    rw [requested_tested hrun hafter, Outcome.map_name_leaveOut]
    rfl

/-- A name that no test bears is a request for a test that is not registered. -/
theorem Testing.not_registered (h : r.Testing names stage history notRan last) {name : String}
    (hmem : .unknown name ∈ history) : name ∈ names ∧ name ∉ r.suite.testNames := by
  induction h with
  | done => cases hmem
  | @unknown name' _ _ _ _ _ hname _ ih =>
    rcases List.mem_cons.mp hmem with heq | hmem
    · cases heq
      refine ⟨List.mem_cons_self, ?_⟩
      rw [← Testset.find?_isSome_iff, Testset.find?_of_none hname]
      exact Bool.false_ne_true
    · exact ⟨List.mem_cons_of_mem _ (ih hmem).1, (ih hmem).2⟩
  | tested _ _ _ _ _ ih =>
    have hmem := ih (by simpa using hmem)
    exact ⟨List.mem_cons_of_mem _ hmem.1, hmem.2⟩
  | stopped => simp at hmem

/-- A name whose turn came is registered, or happened to be one that no test bears. -/
theorem Testing.registered (h : r.Testing names stage history notRan last) {name : String}
    (hmem : name ∈ Happening.requested history) :
    name ∈ r.suite.testNames ∨ .unknown name ∈ history := by
  have of_locate {name : String} {test : TestCase T C W} {place : Nat}
      (hname : r.suite.locate? name = some (test, place)) : name ∈ r.suite.testNames := by
    rw [← Testset.find?_isSome_iff, Testset.find?_of_some hname]
    rfl
  induction h with
  | done => cases hmem
  | unknown _ _ ih =>
    rcases List.mem_cons.mp hmem with rfl | hmem
    · exact .inr List.mem_cons_self
    · exact (ih hmem).imp_right (List.mem_cons_of_mem _)
  | tested hname hrun hafter _ _ ih =>
    rw [requested_tested hrun hafter] at hmem
    rcases List.mem_cons.mp hmem with rfl | hmem
    · exact .inl (of_locate hname)
    · exact (ih hmem).imp_right fun h => List.mem_cons_of_mem _ (List.mem_cons_of_mem _ h)
  | stopped hname hrun hafter _ =>
    rw [requested_tested hrun hafter] at hmem
    rcases List.mem_cons.mp hmem with rfl | hmem
    · exact .inl (of_locate hname)
    · cases hmem

theorem Testing.testsLeftOut (h : r.Testing names stage history notRan last) :
    Happening.TestsLeftOut names history notRan := by
  induction h with
  | done => exact .none rfl (by simp)
  | @unknown name _ _ _ _ _ _ _ ih =>
    cases ih with
    | none hnames hpassed =>
      refine .none ?_ (by simpa using hpassed)
      rw [Happening.requested_unknown, ← hnames]
    | after before hnames hrun hafter hfailed =>
      refine .after (.unknown name :: before) ?_ hrun hafter hfailed
      rw [Happening.requested_unknown, hnames, List.cons_append]
  | @tested _ _ _ _ _ run after _ _ _ _ hrun hafter hpass _ ih =>
    cases ih with
    | none hnames hpassed =>
      refine .none ?_ ?_
      · rw [requested_tested hrun hafter, ← hnames]
      · rw [Happening.calls_called, Happening.calls_called, List.forall_mem_cons,
          List.forall_mem_cons]
        refine ⟨?_, fun _ => hpass, hpassed⟩
        rw [hrun, call_site]
        intro hsite
        cases hsite
    | after before hnames hrun' hafter' hfailed =>
      refine .after (.called run :: .called after :: before) ?_ hrun' hafter' hfailed
      rw [requested_tested hrun hafter, hnames, List.cons_append]
  | stopped _ hrun hafter hfailed =>
    exact .after [] rfl (by rw [hrun, call_site]) (by rw [hafter, call_site]) hfailed

theorem Course.leftOut (h : r.Course names stage history notRan last) :
    Happening.LeftOut names history notRan := by
  cases h with
  | skipped hsetup hfailed _ => exact .all (by rw [hsetup, call_site]) hfailed
  | tested hsetup hpassed htests _ =>
    exact .tests (by rw [hsetup, call_site]) hpassed htests.testsLeftOut

theorem Course.names_eq (h : r.Course names stage history notRan last) :
    names = Happening.requested history ++ notRan.map NotRan.name := by
  cases h with
  | skipped hsetup _ hteardown =>
    have hnone := Happening.requested_around (isTest_of_call hsetup) (isTest_of_call hteardown) []
    rw [Outcome.map_name_leaveOut]
    exact (congrArg (· ++ names) hnone).symm
  | tested hsetup _ htests hteardown =>
    rw [Happening.requested_around (isTest_of_call hsetup) (isTest_of_call hteardown)]
    exact htests.names_eq

/-- After a setup and test teardowns that pass nothing is left out. -/
theorem Course.notRan_eq_nil (h : r.Course names stage history notRan last)
    (hpassed : Call.NothingSkipped (Happening.calls history)) : notRan = [] := by
  cases h.leftOut with
  | all hsetup hfailed => exact absurd (hpassed _ (by simp) (.inl hsetup)) hfailed
  | tests _ _ htests =>
    cases htests with
    | none => rfl
    | after before _ _ hafter hfailed =>
      exact absurd (hpassed _ (by simp) (.inr hafter)) hfailed

theorem Course.not_registered (h : r.Course names stage history notRan last) {name : String}
    (hmem : .unknown name ∈ history) : name ∈ names ∧ name ∉ r.suite.testNames := by
  cases h with
  | skipped => simp at hmem
  | tested _ _ htests _ => exact htests.not_registered (by simpa using hmem)

theorem Course.registered (h : r.Course names stage history notRan last) {name : String}
    (hmem : name ∈ Happening.requested history) :
    name ∈ r.suite.testNames ∨ .unknown name ∈ history := by
  cases h with
  | skipped hsetup _ hteardown =>
    have hnone := Happening.requested_around (isTest_of_call hsetup) (isTest_of_call hteardown) []
    exact absurd (hnone ▸ hmem) List.not_mem_nil
  | tested hsetup _ htests hteardown =>
    rw [Happening.requested_around (isTest_of_call hsetup) (isTest_of_call hteardown)] at hmem
    refine (htests.registered hmem).imp_right ?_
    intro hunknown
    simp [hunknown]

/-- A run passes just when every requested test is registered and every call passed. -/
theorem Course.passed_iff {state : RunState T C W}
    (h : r.Course names state.stage history notRan last) (hdry : r.config.dryRun = false)
    (progress : Option Progress) :
    (r.run names progress state).outcome.passed = true ↔
      (∀ name ∈ names, name ∈ r.suite.testNames) ∧
        ∀ call ∈ Happening.calls history, call.Passed := by
  rw [Outcome.passed_iff, h.outcome_run hdry progress, Happening.errors_eq_nil_iff]
  constructor
  · rintro ⟨⟨hpassed, hknown⟩, hnone⟩
    refine ⟨?_, hpassed⟩
    intro name hmem
    rw [h.names_eq, show notRan = [] from hnone, List.map_nil, List.append_nil] at hmem
    exact (h.registered hmem).resolve_right (hknown name)
  · rintro ⟨hregistered, hpassed⟩
    refine ⟨⟨hpassed, ?_⟩, h.notRan_eq_nil fun call hmem _ => hpassed call hmem⟩
    intro name hunknown
    obtain ⟨hmem, hnot⟩ := h.not_registered hunknown
    exact hnot (hregistered name hmem)

/-- **The account.** The outcome of a run is read off its history: how many tests were attempted;
one error for each call that did not pass and for each name that no test bears, as they happened;
and the tests that were left out. Together these make up the names that were requested, none lost
and none doubled, and a run passes just when all that was requested is registered and all that
was called passed. -/
theorem outcome_accounts_for_names (r : Runner T C W) (hdry : r.config.dryRun = false)
    (names : List String) (progress : Option Progress) (state : RunState T C W) :
    let result := r.run names progress state
    let outcome := result.outcome
    ∃ history,
      r.Course names state.stage history outcome.notRan result.state.stage ∧
        r.calls names progress state = Happening.calls history ∧
        outcome.executed = Happening.attempts history ∧
        outcome.errors =
          Happening.errors r.suite (r.suite.name state.stage.testset) state.panicSite history ∧
        Happening.LeftOut names history outcome.notRan ∧
        names = Happening.requested history ++ outcome.notRan.map NotRan.name ∧
        outcome.executed + outcome.errors.countP TestError.isUnknown + outcome.notRan.length =
          names.length ∧
        (outcome.passed = true ↔
          (∀ name ∈ names, name ∈ r.suite.testNames) ∧
            ∀ call ∈ r.calls names progress state, call.Passed) := by
  obtain ⟨history, notRan, last, hcourse⟩ := r.exists_course names state.stage
  have houtcome := hcourse.outcome_run hdry progress
  have hlength : Happening.attempts history +
      (Happening.errors r.suite (r.suite.name state.stage.testset) state.panicSite
        history).countP TestError.isUnknown + notRan.length = names.length := by
    rw [← Happening.length_requested]
    conv_rhs => rw [hcourse.names_eq]
    rw [List.length_append, List.length_map]
  simp only [hcourse.passed_iff hdry progress]
  rw [houtcome, hcourse.stage_run hdry progress, hcourse.calls_run hdry progress]
  exact ⟨history, hcourse, rfl, rfl, rfl, hcourse.leftOut, hcourse.names_eq, hlength, Iff.rfl⟩

/-- All three places at once: `x` is no test, and the last name has no turn. -/
theorem sample_outcome_accounts_for_names :
    sample.config.dryRun = false ∧
      (let result := sample.run ["b", "x", "a", "b"] none sampleState
      let outcome := result.outcome
      ∃ history,
        sample.Course ["b", "x", "a", "b"] sampleState.stage history outcome.notRan
            result.state.stage ∧
          sample.calls ["b", "x", "a", "b"] none sampleState = Happening.calls history ∧
          outcome.executed = Happening.attempts history ∧
          outcome.errors = Happening.errors sample.suite "Sample" none history ∧
          Happening.LeftOut ["b", "x", "a", "b"] history outcome.notRan ∧
          ["b", "x", "a", "b"] =
            Happening.requested history ++ outcome.notRan.map NotRan.name ∧
          outcome.executed + outcome.errors.countP TestError.isUnknown +
            outcome.notRan.length = 4 ∧
          (outcome.passed = true ↔
            (∀ name ∈ ["b", "x", "a", "b"], name ∈ sample.suite.testNames) ∧
              ∀ call ∈ sample.calls ["b", "x", "a", "b"] none sampleState, call.Passed)) ∧
      (sample.run ["b", "x", "a", "b"] none sampleState).outcome =
        { executed := 2
          errors :=
            [⟨"Sample.x", .unknownTest "Sample" "x"⟩,
              ⟨"Sample.a", .raised (.panic "unknown panic payload" none)⟩,
              ⟨"Sample.test_teardown", .raised (.panic "late" none)⟩,
              ⟨"Sample.teardown", .raised (.message "left over")⟩]
          notRan := [⟨"b", "Earlier test_teardown failed"⟩] } :=
  ⟨rfl, sample.outcome_accounts_for_names rfl ["b", "x", "a", "b"] none sampleState, rfl⟩

end Runner

end Testbed
