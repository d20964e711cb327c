import Testbed.Proofs.Testset.Transcript
import Testbed.Proofs.Testset.Upkeep

/-!
# A dry run is the skeleton of a run

A dry run goes through the requested names like any other run, but calls nothing. What it tells is
therefore known beforehand: a line for each name that a test bears, and an error for each that none
does. A real run starts to tell the same, in the same order, and stops where a setup or a test
teardown does not pass. If none fails, it tells all of it.

The names of a real run are read off its calls, and its text off the same calls. The line of a call
begins with the name under which the call is reported, so the one is a reading of the other.

## What is deliberately absent

A testset may change its name while it runs, and would then be told of under another. Here it has
one name.

Whether a test passes has no part in this: how its line ends is not looked at.

## Main definitions

* `Testset.known`, `Testset.unknown` — the requested names that tests bear, and the others
* `Runner.withDryRun` — the same run, dry or not
* `Runner.statusNames` — the names that have a status line

## Main results

* `Runner.run_dry` — what a dry run comes to
* `Runner.Course.statusNames_eq`, `Runner.Course.unknownErrors_eq` — what a real run tells of names
* `Runner.dry_run_is_skeleton`
-/

namespace Testbed

variable {T C W : Type}

/-! ### Names that tests bear -/

namespace Testset

/-- The names that some test bears, in order. -/
def known (suite : Testset T C W) (names : List String) : List String :=
  names.filter fun name => name ∈ suite.testNames

/-- The names that no test bears, in order. -/
def unknown (suite : Testset T C W) (names : List String) : List String :=
  names.filter fun name => name ∉ suite.testNames

variable {suite : Testset T C W} {name : String} {names : List String} {test : TestCase T C W}

theorem mem_testNames_of_find? (h : suite.find? name = some test) : name ∈ suite.testNames := by
  rw [← find?_isSome_iff, h]
  rfl

theorem not_mem_testNames_of_find? (h : suite.find? name = none) : name ∉ suite.testNames := by
  rw [← find?_isSome_iff, h]
  exact Bool.false_ne_true

theorem known_cons_of_mem (h : name ∈ suite.testNames) :
    suite.known (name :: names) = name :: suite.known names :=
  List.filter_cons_of_pos (decide_eq_true h)

theorem known_cons_of_not_mem (h : name ∉ suite.testNames) :
    suite.known (name :: names) = suite.known names :=
  List.filter_cons_of_neg (by simpa using h)

theorem unknown_cons_of_mem (h : name ∈ suite.testNames) :
    suite.unknown (name :: names) = suite.unknown names :=
  List.filter_cons_of_neg (by simpa using h)

theorem unknown_cons_of_not_mem (h : name ∉ suite.testNames) :
    suite.unknown (name :: names) = name :: suite.unknown names :=
  List.filter_cons_of_pos (decide_eq_true h)

end Testset

namespace Runner

/-- The same run, dry or not. -/
def withDryRun (r : Runner T C W) (dryRun : Bool) : Runner T C W :=
  { r with config := { r.config with dryRun } }

/-- The names of the calls that have a status line, in order. -/
def statusNames (r : Runner T C W) (calls : List (Call T C W)) : List String :=
  (calls.filter fun call => call.site.phase.style = .statusLine).map r.nameOf

/-- The block of a call, as the configuration and the caller want it. -/
def spoken (r : Runner T C W) : Option String → Call T C W → List Piece :=
  if r.config.verbose || !r.intercept then r.streamed else r.captured

theorem prints_spoken (r : Runner T C W) : r.Prints r.spoken := by
  rw [spoken]
  split
  · rename_i hstreams
    exact prints_streamed (by simpa using hstreams)
  · rename_i hkept
    obtain ⟨hverbose, hintercept⟩ : r.config.verbose = false ∧ r.intercept = true := by
      simpa using hkept
    exact prints_captured hverbose hintercept

/-! ### The dry run -/

section dry

variable {r : Runner T C W} {display : String}

/-- A test whose turn comes in a dry run adds its line. -/
theorem runTests_dry (hdry : r.config.dryRun = true)
    (hdisplay : ∀ testset, r.suite.name testset = display) (testset : String) (names : List String)
    (state : RunState T C W) :
    r.runTests testset names state =
      { outcome := ⟨0, (r.suite.unknown names).map (Happening.unknownError testset), []⟩
        state
        printed := String.join ((r.suite.known names).map fun name =>
          Status.skip r.config (display ++ "." ++ name) "dry run") } := by
  induction names with
  | nil => rfl
  | cons name rest ih =>
    cases hname : r.suite.find? name with
    | none =>
      have hmem := Testset.not_mem_testNames_of_find? hname
      rw [runTests_of_unknown hname, ih, Testset.unknown_cons_of_not_mem hmem,
        Testset.known_cons_of_not_mem hmem]
      rfl
    | some test =>
      have hmem := Testset.mem_testNames_of_find? hname
      obtain rfl : test.name = name := by simpa using List.find?_some hname
      rw [runTests_of_success hname (invoke_dry hdry _ _ _) (invoke_dry hdry _ _ _) rfl, ih,
        Testset.unknown_cons_of_mem hmem, Testset.known_cons_of_mem hmem]
      simp [attempted, hdry, Phase.style, Phase.label, qualified, hdisplay]

/-- What a dry run comes to: nothing is attempted and nothing left out, a name that no test bears is
an error, and one that a test bears a line. -/
theorem run_dry (hdry : r.config.dryRun = true)
    (hdisplay : ∀ testset, r.suite.name testset = display) (names : List String)
    (progress : Option Progress) (state : RunState T C W) :
    r.run names progress state =
      { outcome := ⟨0, (r.suite.unknown names).map (Happening.unknownError display), []⟩
        state
        printed := header display progress ++
          String.join ((r.suite.known names).map fun name =>
            Status.skip r.config (display ++ "." ++ name) "dry run") } := by
  have hbefore : r.runUpToTeardown display names state =
      r.runTests display names state := by
    rw [runUpToTeardown_of_success (invoke_dry hdry _ _ _) rfl]
    simp [Phase.style]
  rw [run]
  simp only [hdisplay, hbefore, runTests_dry hdry hdisplay, invoke_dry hdry]
  simp [Phase.style]

/-- A dry run calls nothing. -/
theorem calls_dry (hdry : r.config.dryRun = true) (names : List String)
    (progress : Option Progress) (state : RunState T C W) : r.calls names progress state = [] := by
  have hnoting : (r.noting id).config.dryRun = true := hdry
  rw [calls, run_state_of_dry hnoting]
  rfl

end dry

/-! ### The real run -/

section live

variable {r : Runner T C W} {names : List String} {stage last : Stage T C W}
  {history : List (Happening T C W)} {notRan : List NotRan} {display : String}

/-- A run calls only tests that are registered. -/
theorem Makes.isTest_cases {call : Call T C W} (h : r.Makes call) :
    call.site.isTest = false ∨
      ∃ place name, call.site = .test place name ∧ name ∈ r.suite.testNames := by
  cases h with
  | @test name _ place hname _ =>
    exact .inr ⟨place, name, rfl, Testset.mem_testNames_of_find? (Testset.find?_of_some hname)⟩
  | setup => exact .inl rfl
  | testTeardown => exact .inl rfl
  | teardown => exact .inl rfl

theorem statusNames_of_not_isTest (r : Runner T C W) {call : Call T C W}
    (hsite : call.site.isTest = false) (rest : List (Call T C W)) :
    r.statusNames (call :: rest) = r.statusNames rest := by
  have hstyle : call.site.phase.style ≠ .statusLine := by
    cases h : call.site <;> simp_all [Site.isTest, Site.phase, Phase.style]
  rw [statusNames, List.filter_cons_of_neg (by simpa using hstyle), ← statusNames]

theorem statusNames_of_test (hdisplay : ∀ testset, r.suite.name testset = display)
    {call : Call T C W} {place : Nat} {name : String} (hsite : call.site = .test place name)
    (rest : List (Call T C W)) :
    r.statusNames (call :: rest) = (display ++ "." ++ name) :: r.statusNames rest := by
  have hstyle : call.site.phase.style = .statusLine := by rw [hsite]; rfl
  have hname : r.nameOf call = display ++ "." ++ name := by
    rw [nameOf, qualified, hdisplay, hsite]
    rfl
  rw [statusNames, List.filter_cons_of_pos (by simpa using hstyle), List.map_cons, hname,
    ← statusNames]

/-- The calls of a history that have a status line are those of the requested names that tests
bear. -/
theorem statusNames_eq (hdisplay : ∀ testset, r.suite.name testset = display)
    (hmakes : ∀ call ∈ Happening.calls history, r.Makes call)
    (hunknown : ∀ name, .unknown name ∈ history → name ∉ r.suite.testNames) :
    r.statusNames (Happening.calls history) =
      (r.suite.known (Happening.requested history)).map fun name => display ++ "." ++ name := by
  induction history with
  | nil => rfl
  | cons happening rest ih =>
    have ih := fun hmakes => ih hmakes fun name hmem => hunknown name (List.mem_cons_of_mem _ hmem)
    cases happening with
    | unknown name =>
      rw [Happening.calls_unknown, Happening.requested_unknown,
        Testset.known_cons_of_not_mem (hunknown name List.mem_cons_self)]
      exact ih hmakes
    | called call =>
      obtain ⟨hcall, hrest⟩ := List.forall_mem_cons.mp hmakes
      rw [Happening.calls_called]
      rcases hcall.isTest_cases with hsite | ⟨place, name, hsite, hmem⟩
      · rw [statusNames_of_not_isTest r hsite, Happening.requested_of_not_isTest hsite, ih hrest]
      · rw [statusNames_of_test hdisplay hsite, Happening.requested_test hsite,
          Testset.known_cons_of_mem hmem, List.map_cons, ih hrest]

/-- The names that no test bears, among those that were requested, are told as errors. -/
theorem unknownErrors_eq (testset : String) (panicSite : Option String)
    (hmakes : ∀ call ∈ Happening.calls history, r.Makes call)
    (hunknown : ∀ name, .unknown name ∈ history → name ∉ r.suite.testNames) :
    (Happening.errors r.suite testset panicSite history).filter TestError.isUnknown =
      (r.suite.unknown (Happening.requested history)).map (Happening.unknownError testset) := by
  induction history generalizing panicSite with
  | nil => rfl
  | cons happening rest ih =>
    have ih := fun panicSite hmakes => ih panicSite hmakes fun name hmem =>
      hunknown name (List.mem_cons_of_mem _ hmem)
    cases happening with
    | unknown name =>
      rw [Happening.errors, Happening.requested_unknown,
        Testset.unknown_cons_of_not_mem (hunknown name List.mem_cons_self),
        List.filter_cons_of_pos rfl, ih panicSite hmakes]
      rfl
    | called call =>
      obtain ⟨hcall, hrest⟩ := List.forall_mem_cons.mp hmakes
      have hraised : (call.error? r.suite panicSite).toList.filter TestError.isUnknown = [] := by
        rw [← List.length_eq_zero_iff, ← List.countP_eq_length_filter]
        exact Happening.countP_error? r.suite panicSite call
      rw [Happening.errors, List.filter_append, hraised, List.nil_append, ih _ hrest]
      rcases hcall.isTest_cases with hsite | ⟨place, name, hsite, hmem⟩
      · rw [Happening.requested_of_not_isTest hsite]
      · rw [Happening.requested_test hsite, Testset.unknown_cons_of_mem hmem]

/-- What a real run tells of names is told of the names whose turn came. -/
theorem Course.statusNames_eq (h : r.Course names stage history notRan last)
    (hdisplay : ∀ testset, r.suite.name testset = display) :
    r.statusNames (Happening.calls history) =
      (r.suite.known (Happening.requested history)).map fun name => display ++ "." ++ name :=
  Runner.statusNames_eq hdisplay h.makes fun _ hmem => (h.not_registered hmem).2

theorem Course.unknownErrors_eq {state : RunState T C W}
    (h : r.Course names state.stage history notRan last) (hdry : r.config.dryRun = false)
    (hdisplay : ∀ testset, r.suite.name testset = display) (progress : Option Progress) :
    (r.run names progress state).outcome.errors.filter TestError.isUnknown =
      (r.suite.unknown (Happening.requested history)).map (Happening.unknownError display) := by
  rw [h.outcome_run hdry progress, hdisplay]
  exact Runner.unknownErrors_eq display state.panicSite h.makes fun _ hmem =>
    (h.not_registered hmem).2

end live

/-- **A dry run is a skeleton.** It calls nothing, leaves everything as it was, and tells of each
requested name that a test bears by a line and of each other by an error, in order. The names that
have a status line in a real run are among these from the first on, without a gap, and so are its
errors about names; after a setup and test teardowns that pass it has all of them. -/
theorem dry_run_is_skeleton (r : Runner T C W) (display : String)
    (hdisplay : ∀ testset, r.suite.name testset = display) (names : List String)
    (progress : Option Progress) (state : RunState T C W) :
    let dry := r.withDryRun true
    let live := r.withDryRun false
    let lined := (r.suite.known names).map fun name => display ++ "." ++ name
    let errors := (r.suite.unknown names).map (Happening.unknownError display)
    let calls := live.calls names progress state
    let result := live.run names progress state
    (dry.calls names progress state = [] ∧
        dry.run names progress state =
          { outcome := ⟨0, errors, []⟩
            state
            printed := header display progress ++
              String.join (lined.map fun name => Status.skip dry.config name "dry run") }) ∧
      result.printed = header display progress ++
        Piece.join (Call.blocks live.spoken state.panicSite calls).flatten ∧
      live.statusNames calls <+: lined ∧
      result.outcome.errors.filter TestError.isUnknown <+: errors ∧
      (Call.NothingSkipped calls →
        live.statusNames calls = lined ∧
          result.outcome.errors.filter TestError.isUnknown = errors) := by
  intro dry live lined errors calls result
  obtain ⟨history, notRan, last, hcourse⟩ := live.exists_course names state.stage
  have hcalls : calls = Happening.calls history := hcourse.calls_run rfl progress
  have hnames := hcourse.names_eq
  have hlined : live.statusNames calls =
      (r.suite.known (Happening.requested history)).map fun name => display ++ "." ++ name := by
    rw [hcalls]
    exact hcourse.statusNames_eq hdisplay
  have herrors : result.outcome.errors.filter TestError.isUnknown =
      (r.suite.unknown (Happening.requested history)).map (Happening.unknownError display) :=
    hcourse.unknownErrors_eq rfl hdisplay progress
  refine ⟨⟨calls_dry rfl names progress state, ?_⟩, ?_, ?_, ?_, ?_⟩
  · rw [run_dry (r := dry) rfl hdisplay names progress state, List.map_map]
    rfl
  · rw [hcalls, ← hdisplay state.stage.testset]
    exact hcourse.printed_run rfl live.prints_spoken progress
  · have hbegins : Happening.requested history <+: names := ⟨_, hnames.symm⟩
    rw [hlined]
    exact (hbegins.filter _).map _
  · have hbegins : Happening.requested history <+: names := ⟨_, hnames.symm⟩
    rw [herrors]
    exact (hbegins.filter _).map _
  · intro hpassed
    have hall : names = Happening.requested history := by
      rw [hcourse.notRan_eq_nil (hcalls ▸ hpassed), List.map_nil, List.append_nil] at hnames
      exact hnames
    rw [hlined, herrors, ← hall]
    exact ⟨rfl, rfl⟩

/-- The second test teardown of the sample panics, so the real run does not come to the last
name. -/
theorem sample_dry_run :
    let names := ["b", "x", "a", "b"]
    let dry := sample.withDryRun true
    let live := sample.withDryRun false
    (∀ testset, sample.suite.name testset = "Sample") ∧
      dry.calls names none sampleState = [] ∧
      dry.run names none sampleState =
        { outcome := ⟨0, [⟨"Sample.x", .unknownTest "Sample" "x"⟩], []⟩
          state := sampleState
          printed := "\nStarting testset: Sample...\n  Sample.b... skipped (dry run)\n" ++
            "  Sample.a... skipped (dry run)\n  Sample.b... skipped (dry run)\n" } ∧
      live.statusNames (live.calls names none sampleState) = ["Sample.b", "Sample.a"] ∧
      live.statusNames (live.calls names none sampleState) <+:
        ["Sample.b", "Sample.a", "Sample.b"] := by
  intro names dry live
  have hdisplay : ∀ testset, sample.suite.name testset = "Sample" := fun _ => rfl
  obtain ⟨⟨hcalls, hrun⟩, -, hbegins, -⟩ :=
    sample.dry_run_is_skeleton "Sample" hdisplay names none sampleState
  refine ⟨hdisplay, hcalls, hrun.trans ?_, rfl, hbegins⟩
  rw [RunResult.mk.injEq]
  refine ⟨rfl, rfl, ?_⟩
  decide +kernel

end Runner

end Testbed
