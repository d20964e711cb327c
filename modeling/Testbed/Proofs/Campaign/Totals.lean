import Mathlib.Algebra.GroupWithZero.Nat
import Mathlib.Data.List.Infix
import Testbed.Proofs.Campaign.Upkeep
import Testbed.Proofs.Reconciler.Cleanup
import Testbed.Proofs.Testset.Accounting

/-!
# What a campaign comes to

The summary of a campaign is the sum of the outcomes that it has returned, and of nothing else. A
testset that ends with an internal fault returns no outcome and leaves the summary as it was.

An outcome comes about in two ways, with a cluster and without. In either case it accounts for
every registered test that the filter lets through: run or left out, none lost and none unknown.
The names are taken from the testset itself, so none of them can be unknown.

## What is deliberately absent

In a dry run nothing is executed and nothing left out, so the names are not accounted for. The
totals are those of dry runs all the same.

## Main definitions

* `Testset.namesContaining` — the registered tests that a filter lets through
* `Campaign.Upshot` — the three ways in which a testset can end
* `Campaign.results` — what the testsets of a campaign return

## Main results

* `Campaign.runTestset_upshot` — every testset ends in one of the ways
* `Summary.recordAll_eq` — outcomes that are recorded are added up
* `Campaign.summary_accounts_for_outcomes`
-/

namespace Testbed

variable {T C W : Type}

/-! ### The tests that a filter lets through -/

/-- The names of the registered tests that contain the filter, in order; all names, if there is no
filter. -/
def Testset.namesContaining (suite : Testset T C W) (filter : Option String) : List String :=
  suite.testNames.filter fun name =>
    match filter with
    | none => true
    | some part => part.toList <:+: name.toList

namespace Campaign

theorem occursIn_iff (part text : List Char) : occursIn part text = true ↔ part <:+: text := by
  induction text with
  | nil => simp [occursIn]
  | cons c rest ih =>
    rw [occursIn, Bool.or_eq_true, ih, List.isPrefixOf_iff_prefix, List.infix_cons_iff]

theorem selected_eq (campaign : Campaign C W) (suite : Testset T C W) :
    campaign.selected suite = suite.namesContaining campaign.filter := by
  refine List.filter_congr ?_
  intro name _
  rw [selects]
  cases campaign.filter with
  | none => rfl
  | some part => rw [Bool.eq_iff_iff, occursIn_iff, decide_eq_true_iff]

theorem mem_testNames_of_mem_selected {campaign : Campaign C W} {suite : Testset T C W}
    {name : String} (h : name ∈ campaign.selected suite) : name ∈ suite.testNames :=
  (List.mem_filter.mp h).1

end Campaign

/-! ### Outcomes of runs -/

/-- Where every name is known, no error says otherwise. -/
theorem Happening.isUnknown_of_mem_errors {suite : Testset T C W} {testset : String}
    {panicSite : Option String} {history : List (Happening T C W)}
    (hknown : ∀ name, .unknown name ∉ history) :
    ∀ error ∈ errors suite testset panicSite history, error.isUnknown = false := by
  induction history generalizing panicSite with
  | nil => simp [errors]
  | cons happening rest ih =>
    have hrest : ∀ name, .unknown name ∉ rest :=
      fun name hmem => hknown name (List.mem_cons_of_mem _ hmem)
    cases happening with
    | unknown name => exact absurd List.mem_cons_self (hknown name)
    | called call =>
      intro error hmem
      rcases List.mem_append.mp hmem with hmem | hmem
      · have hnone := List.countP_eq_zero.mp (countP_error? suite panicSite call) error hmem
        simpa using hnone
      · exact ih hrest error hmem

/-- A run over registered names accounts for each of them, as run or as left out. -/
theorem Runner.outcome_of_registered {r : Runner T C W} (hdry : r.config.dryRun = false)
    {names : List String} (hnames : ∀ name ∈ names, name ∈ r.suite.testNames)
    (progress : Option Progress) (state : RunState T C W) :
    let outcome := (r.run names progress state).outcome
    outcome.executed + outcome.notRan.length = names.length ∧
      ∀ error ∈ outcome.errors, error.isUnknown = false := by
  obtain ⟨history, notRan, last, hcourse⟩ := r.exists_course names state.stage
  have hknown : ∀ name, .unknown name ∉ history := by
    intro name hmem
    obtain ⟨hrequested, hnot⟩ := hcourse.not_registered hmem
    exact hnot (hnames name hrequested)
  have herrors : ∀ error ∈ Happening.errors r.suite (r.suite.name state.stage.testset)
      state.panicSite history, error.isUnknown = false :=
    Happening.isUnknown_of_mem_errors hknown
  have hlength := Happening.length_requested r.suite (r.suite.name state.stage.testset)
    state.panicSite history
  rw [List.countP_eq_zero.mpr (by simpa using herrors), Nat.add_zero] at hlength
  simp only [hcourse.outcome_run hdry progress]
  refine ⟨?_, herrors⟩
  rw [← hlength]
  conv_rhs => rw [hcourse.names_eq]
  rw [List.length_append, List.length_map]

/-! ### Adding up -/

namespace Summary

/-- Adds the outcomes of several testsets. -/
def recordAll (summary : Summary) (outcomes : List Outcome) : Summary :=
  outcomes.foldl record summary

theorem recordAll_eq (summary : Summary) (outcomes : List Outcome) :
    summary.recordAll outcomes =
      { testsets := summary.testsets + outcomes.length
        executed := summary.executed + (outcomes.map Outcome.executed).sum
        errors := summary.errors ++ outcomes.flatMap fun outcome =>
          outcome.errors.map fun error => (error.name, error.report.text)
        notRan := summary.notRan ++ outcomes.flatMap Outcome.notRan } := by
  induction outcomes generalizing summary with
  | nil => simp [recordAll]
  | cons outcome rest ih =>
    rw [recordAll, List.foldl_cons, ← recordAll, ih]
    simp [record, Nat.add_assoc, Nat.add_comm 1]

/-- A summary is a success just if it was one and all that is added has passed. -/
theorem success_recordAll (summary : Summary) (outcomes : List Outcome) :
    (summary.recordAll outcomes).success = (summary.success && outcomes.all Outcome.passed) := by
  induction outcomes generalizing summary with
  | nil => simp [recordAll]
  | cons outcome rest ih =>
    rw [recordAll, List.foldl_cons, ← recordAll, ih, success_record, List.all_cons, Bool.and_assoc]

end Summary

namespace Campaign

/-! ### How a testset ends -/

/-- `campaign.Upshot suite progress acquired result summary`: where asking for a cluster came to
`acquired`, a testset can return `result` and leave `summary`. -/
inductive Upshot (campaign : Campaign C W) (suite : Testset T C W) (progress : Option Progress) :
    Except Fault Acquisition → Except Fault Outcome → Summary → Prop where
  /-- An internal fault is passed on, and nothing is recorded. -/
  | passedOn {fault} (hinternal : fault.isInternal = true) :
      Upshot campaign suite progress (.error fault) (.error fault) campaign.summary
  /-- Any other fault leaves every test out. -/
  | unavailable {fault} (hcontained : fault.isInternal = false) :
      Upshot campaign suite progress (.error fault)
        (.ok (unavailable suite (campaign.selected suite) fault))
        (campaign.summary.record (Campaign.unavailable suite (campaign.selected suite) fault))
  /-- With a cluster the tests are run. -/
  | ran {acquisition opening outcome}
      (houtcome : ((campaign.runner suite).run (campaign.selected suite) progress opening).outcome =
        outcome) :
      Upshot campaign suite progress (.ok acquisition) (.ok outcome)
        (campaign.summary.record outcome)

section

variable {campaign : Campaign C W} {suite : Testset T C W} {progress : Option Progress}
  {acquired : Except Fault Acquisition} {result : Except Fault Outcome} {summary : Summary}
  {fault : Fault} {outcome : Outcome}

/-- Just an outcome that is returned is recorded. -/
theorem Upshot.summary_eq (h : campaign.Upshot suite progress acquired result summary) :
    summary = campaign.summary.recordAll result.toOption.toList := by
  cases h with
  | passedOn _ => rfl
  | unavailable _ => rfl
  | ran _ => rfl

/-- Just an internal fault is passed on. -/
theorem Upshot.error_iff (h : campaign.Upshot suite progress acquired result summary) :
    result = .error fault ↔ acquired = .error fault ∧ fault.isInternal = true := by
  cases h with
  | passedOn hinternal =>
    constructor
    · rintro ⟨⟩
      exact ⟨rfl, hinternal⟩
    · rintro ⟨⟨⟩, -⟩
      rfl
  | unavailable hcontained =>
    constructor
    · intro herror
      cases herror
    · rintro ⟨⟨⟩, hinternal⟩
      rw [hcontained] at hinternal
      cases hinternal
  | ran _ =>
    constructor
    · intro herror
      cases herror
    · rintro ⟨herror, -⟩
      cases herror

/-- Without a cluster every test is left out. -/
theorem Upshot.outcome_of_error (h : campaign.Upshot suite progress acquired result summary)
    (hfault : acquired = .error fault) (hok : result = .ok outcome) :
    outcome = Campaign.unavailable suite (campaign.selected suite) fault := by
  cases h with
  | passedOn _ => cases hok
  | unavailable _ =>
    cases hfault
    cases hok
    rfl
  | ran _ => cases hfault

/-- With a cluster or without, every test that the filter lets through is accounted for. -/
theorem Upshot.account (h : campaign.Upshot suite progress acquired result summary)
    (hdry : campaign.config.dryRun = false) (hok : result = .ok outcome) :
    outcome.executed + outcome.notRan.length = (campaign.selected suite).length ∧
      ∀ error ∈ outcome.errors, error.isUnknown = false := by
  cases h with
  | passedOn _ => cases hok
  | unavailable _ =>
    cases hok
    exact ⟨by simp [Campaign.unavailable], by simp [Campaign.unavailable, TestError.isUnknown]⟩
  | @ran _ opening _ houtcome =>
    cases hok
    have hregistered : ∀ name ∈ campaign.selected suite,
        name ∈ (campaign.runner suite).suite.testNames :=
      fun name hmem => mem_testNames_of_mem_selected hmem
    have haccount := Runner.outcome_of_registered (r := campaign.runner suite) hdry hregistered
      progress opening
    rwa [houtcome] at haccount

end

theorem giveUp_upshot (campaign : Campaign C W) (reconciler : Reconciler C)
    (suite : Testset T C W) (progress : Option Progress) (fault : Fault) (world : W) :
    let attempt := giveUp { campaign with reconciler } suite fault world
    campaign.Upshot suite progress (.error fault) attempt.result attempt.campaign.summary := by
  rw [giveUp]
  cases hinternal : fault.isInternal with
  | true => exact .passedOn hinternal
  | false => exact .unavailable hinternal

/-- Every testset ends in one of the ways. -/
theorem runTestset_upshot (platform : Platform C W) (campaign : Campaign C W)
    (suite : Testset T C W) (progress : Option Progress) (entropy : Generator) (world : W) :
    let attempt := campaign.runTestset platform suite progress entropy world
    campaign.Upshot suite progress (acquire platform campaign suite world).outcome attempt.result
      attempt.campaign.summary := by
  rw [runTestset]
  cases hgot : (acquire platform campaign suite world).outcome with
  | error fault =>
    rw [goOn_of_error hgot]
    exact giveUp_upshot campaign _ suite progress fault _
  | ok acquisition =>
    -- What is handed out is held, so the way without a cluster is never gone.
    obtain ⟨cluster, hheld, -, -⟩ := Reconciler.reconcile_ok hgot
    rw [goOn_of_some hgot hheld]
    exact .ran rfl

/-! ### The totals -/

/-- What testsets return that are run one after the other. -/
def results (platform : Platform C W) :
    List (Order C W) → Campaign C W × W → List (Except Fault Outcome)
  | [], _ => []
  | order :: rest, state =>
    (state.1.runTestset platform order.suite order.progress order.entropy state.2).result ::
      results platform rest (step platform state order)

/-- The outcomes among what testsets return. -/
def outcomes (results : List (Except Fault Outcome)) : List Outcome :=
  results.flatMap fun result => result.toOption.toList

/-- The summary has recorded just the outcomes that were returned, in order. -/
theorem after_summary (platform : Platform C W) (orders : List (Order C W))
    (state : Campaign C W × W) :
    (after platform orders state).1.summary =
      state.1.summary.recordAll (outcomes (results platform orders state)) := by
  induction orders generalizing state with
  | nil => rfl
  | cons order rest ih =>
    have hstep : (step platform state order).1.summary = state.1.summary.recordAll _ :=
      (runTestset_upshot platform state.1 order.suite order.progress order.entropy
        state.2).summary_eq
    rw [after, List.foldl_cons, ← after, ih, hstep, Summary.recordAll, Summary.recordAll,
      Summary.recordAll, ← List.foldl_append]
    rfl

/-- **The account of a campaign.** The summary counts the outcomes that were returned and adds them
up, in order, and is a success just if all of them have passed. Of the next testset an internal
fault is passed on, with the summary as it was, and nothing else is; any other fault leaves out
every test that the filter lets through, with one error. And unless it is a dry run, what is
returned accounts for every such test as run or left out, and has no error for an unknown name. -/
theorem summary_accounts_for_outcomes (platform : Platform C W) (config : Config)
    (launcher : Launcher C W) (seed : Seed) (reuseAllowed : Bool) (filter : Option String)
    (world : W) (orders : List (Order C W)) :
    let start := ((start config launcher seed reuseAllowed filter).1, world)
    let before := after platform orders start
    let outcomes := outcomes (results platform orders start)
    before.1.summary =
        { testsets := outcomes.length
          executed := (outcomes.map Outcome.executed).sum
          errors := outcomes.flatMap fun outcome =>
            outcome.errors.map fun error => (error.name, error.report.text)
          notRan := outcomes.flatMap Outcome.notRan } ∧
      (before.1.summary.success = true ↔ ∀ outcome ∈ outcomes, outcome.passed = true) ∧
      ∀ order : Order C W,
        let acquired := (acquire platform before.1 order.suite before.2).outcome
        let attempt := before.1.runTestset platform order.suite order.progress order.entropy
          before.2
        let names := order.suite.namesContaining filter
        (∀ fault, attempt.result = .error fault ↔
            acquired = .error fault ∧ fault.isInternal = true) ∧
          (∀ fault, attempt.result = .error fault →
            attempt.campaign.summary = before.1.summary) ∧
          (∀ outcome, attempt.result = .ok outcome → config.dryRun = false →
            outcome.executed + outcome.notRan.length = names.length ∧
              ∀ error ∈ outcome.errors, error.isUnknown = false) ∧
          ∀ fault outcome, acquired = .error fault → attempt.result = .ok outcome →
            outcome.executed = 0 ∧
              outcome.notRan = Outcome.leaveOut names clusterUnavailable ∧
              outcome.errors = [⟨order.suite.typeName ++ ".cluster", .raised (.fault fault)⟩] := by
  intro start before outcomes
  have hsummary : before.1.summary = Summary.recordAll {} outcomes :=
    after_summary platform orders start
  have hsettings : SameSettings before.1 start.1 := after_settings platform orders start
  refine ⟨?_, ?_, ?_⟩
  · rw [hsummary, Summary.recordAll_eq]
    simp
  · rw [hsummary, Summary.success_recordAll]
    simp [Summary.success]
  · intro order acquired attempt names
    have hnames : before.1.selected order.suite = names := by
      rw [selected_eq, hsettings.filter]
      rfl
    have hupshot : before.1.Upshot order.suite order.progress acquired attempt.result
        attempt.campaign.summary := runTestset_upshot ..
    refine ⟨fun fault => hupshot.error_iff, ?_, ?_, ?_⟩
    · intro fault herror
      rw [hupshot.summary_eq, herror]
      rfl
    · intro outcome hok hdry
      have haccount := hupshot.account (hsettings.config ▸ hdry) hok
      rwa [hnames] at haccount
    · intro fault outcome hfault hok
      rw [hupshot.outcome_of_error hfault hok, hnames]
      exact ⟨rfl, rfl, rfl⟩

/-! ### A sample -/

/-- A testset that asks for a cluster of a size. One of its tests fails. -/
def sampleWriting (size : Nat) : Order (Nat × Nat) Unit where
  Instance := Nat
  suite :=
    { typeName := "Writing"
      name := fun _ => "Writing"
      create := fun _ => 0
      requirements := [Reconciler.sampleRequirement size]
      tests :=
        [⟨"new.file", .counting fun _ => .passed⟩, ⟨"old.file", .counting fun _ => .passed⟩,
          ⟨"new.disk", .counting fun _ => .failed (.message "disk full")⟩]
      setup := .counting fun _ => .passed
      teardown := .counting fun _ => .passed
      testTeardown := .counting fun _ => .passed }
  progress := none
  entropy := .ofSeed (.ofUInt64 0)

/-- Clusters can be launched under the first three indexes. -/
def sampleLimited : Launcher (Nat × Nat) Unit :=
  fun options world =>
    ⟨if options.index < 3 then .ok (options.index, 1) else .error (.cluster "no ports left"),
      world, ""⟩

/-- The first cluster does not get the size that is asked for, a test fails on the second, and a
third one cannot be launched, nor can any later one. -/
theorem sample_summary_accounts_for_outcomes :
    let start := ((start .plain sampleLimited (.ofUInt64 0) false (some "new")).1, ())
    let orders := [sampleWriting 5, sampleWriting 1, sampleWriting 1]
    let before := after Reconciler.samplePlatform orders start
    let next := sampleWriting 1
    let failed : Outcome :=
      { executed := 2
        errors := [⟨"Writing.new.disk", .raised (.message "disk full")⟩]
        notRan := [] }
    let unavailable : Outcome :=
      { executed := 0
        errors := [⟨"Writing.cluster", .raised (.fault (.cluster "no ports left"))⟩]
        notRan := Outcome.leaveOut ["new.file", "new.disk"] clusterUnavailable }
    results Reconciler.samplePlatform orders start =
        [.error (.unmetAfterReconcile ["Size"]), .ok failed, .ok unavailable] ∧
      before.1.summary =
        { testsets := 2
          executed := 2
          errors :=
            [("Writing.new.disk", "disk full"),
              ("Writing.cluster", "Cluster error: no ports left")]
          notRan := unavailable.notRan } ∧
      before.1.summary.success = false ∧
      (before.1.runTestset Reconciler.samplePlatform next.suite next.progress next.entropy
        before.2).result = .ok unavailable ∧
      unavailable.executed + unavailable.notRan.length =
        (next.suite.namesContaining (some "new")).length := by
  intro start orders before next failed unavailable
  have hresults : results Reconciler.samplePlatform orders start =
      [.error (.unmetAfterReconcile ["Size"]), .ok failed, .ok unavailable] := by
    decide +kernel
  have hnext : (before.1.runTestset Reconciler.samplePlatform next.suite next.progress next.entropy
      before.2).result = .ok unavailable := by decide +kernel
  obtain ⟨hsummary, hsuccess, hattempt⟩ := summary_accounts_for_outcomes Reconciler.samplePlatform
    .plain sampleLimited (.ofUInt64 0) false (some "new") () orders
  obtain ⟨-, -, haccount, -⟩ := hattempt next
  rw [hresults] at hsummary hsuccess
  refine ⟨hresults, hsummary.trans (by decide +kernel), ?_, hnext,
    (haccount unavailable hnext rfl).1⟩
  rw [← Bool.not_eq_true, hsuccess]
  intro hall
  exact absurd (hall failed (by decide +kernel)) (by decide +kernel)

end Campaign

end Testbed
