import Mathlib.Data.List.Nodup
import Testbed.Proofs.Campaign.Totals
import Testbed.Proofs.Campaign.Watch
import Testbed.Proofs.Reconciler.Cleanup

/-!
# Every registered test has its turn

A full run asks for the registered tests by their names, and each name leads back to the first
test that bears it. So a full run in which nothing is skipped goes through the registered names in
order. Whether it also goes through the registered tests is a matter of the names alone: it does
just when no two tests bear one name. Otherwise the first of them is called in the place of the
others, and nothing in the outcome tells.

Tests are told apart by their places, since their names may not tell them apart.

## What is deliberately absent

A run that skips a test is not looked at: after a setup or a test teardown that does not pass,
tests are left out by design, and the outcome says which.

## Main definitions

* `Testset.sites` — the site of each registered test
* `Testset.placeOf` — the place that a name leads to
* `Campaign.calls` — the calls that a campaign makes of a testset
* `Testset.FullRun` — the calls of a run of all that is registered

## Main results

* `Campaign.calls_of_acquired` — with a cluster, the calls are those of a run on it
* `Testset.sites_eq_iff` — names lead back to their own tests just when they are distinct
* `Testset.each_test_called_iff_nodup`
-/

namespace Testbed

variable {E T C W : Type}

/-! ### Places -/

namespace Testset

/-- The site of each registered test, in order. -/
def sites (suite : Testset T C W) : List Site :=
  suite.tests.zipIdx.map fun (test, place) => .test place test.name

/-- The place of the first registered test that bears a name. -/
def placeOf (suite : Testset T C W) (name : String) : Nat :=
  suite.testNames.idxOf name

variable {suite : Testset T C W} {name : String} {test : TestCase T C W} {place : Nat}

theorem place_of_locate? (h : suite.locate? name = some (test, place)) :
    place = suite.placeOf name := by
  have hplace : (suite.locate? name).map Prod.snd =
      suite.tests.findIdx? fun test => test.name == name :=
    (List.findIdx?_eq_fst_find?_zipIdx (p := fun test : TestCase T C W => test.name == name)).symm
  rw [h, Option.map_some] at hplace
  obtain ⟨-, hfirst⟩ := List.findIdx?_eq_some_iff_findIdx_eq.mp hplace.symm
  rw [placeOf, testNames, List.idxOf, List.findIdx_map]
  exact hfirst.symm

theorem getElem?_of_locate? (h : suite.locate? name = some (test, place)) :
    suite.tests[place]? = some test :=
  List.mem_zipIdx_iff_getElem?.mp (List.mem_of_find?_eq_some h)

theorem locate?_ne_none (h : name ∈ suite.testNames) : suite.locate? name ≠ none := by
  intro hnone
  have hsome := (suite.find?_isSome_iff name).mpr h
  rw [find?_of_none hnone] at hsome
  cases hsome

/-- Each name leads back to its own test just when no two tests bear one name. -/
theorem sites_eq_iff (suite : Testset T C W) :
    (suite.testNames.map fun name => Site.test (suite.placeOf name) name) = suite.sites ↔
      suite.testNames.Nodup := by
  have hsites : suite.sites = suite.testNames.zipIdx.map fun (name, place) => .test place name := by
    rw [sites, testNames, List.zipIdx_map, List.map_map]
    rfl
  rw [hsites]
  constructor
  · intro heq
    rw [List.nodup_iff_injective_getElem]
    -- A name that leads to its own place tells the place.
    have hplace (i : Fin suite.testNames.length) : suite.placeOf suite.testNames[i] = i := by
      have hi := congrArg (fun sites => sites[i.val]?) heq
      simpa using hi
    intro i j hij
    apply Fin.ext
    rw [← hplace i, ← hplace j]
    exact congrArg suite.placeOf hij
  · intro hnodup
    refine List.ext_getElem (by simp) ?_
    intro i hi _
    have hlt : i < suite.testNames.length := by simpa using hi
    simp [placeOf, hnodup.idxOf_getElem i hlt]

end Testset

/-! ### The tests among the calls -/

/-- The sites of the tests among calls, in order. -/
def Call.testSites (calls : List (Call T C W)) : List Site :=
  (calls.map Call.site).filter Site.isTest

/-- If the call is a test's, it is of the body that is registered at the place, under the name. -/
def Call.IsRegistered (suite : Testset T C W) (config : Config) (call : Call T C W) : Prop :=
  ∀ place name, call.site = .test place name →
    ∃ test, suite.tests[place]? = some test ∧ test.name = name ∧
      call.ending = test.body config call.generator call.entry

section

variable {call : Call T C W} {rest : List (Call T C W)}

theorem Call.testSites_of_isTest (hsite : call.site.isTest = true) :
    Call.testSites (call :: rest) = call.site :: Call.testSites rest := by
  rw [testSites, List.map_cons, List.filter_cons_of_pos hsite]
  rfl

theorem Call.testSites_of_not_isTest (hsite : call.site.isTest = false) :
    Call.testSites (call :: rest) = Call.testSites rest := by
  rw [testSites, List.map_cons, List.filter_cons_of_neg (by rw [hsite]; exact Bool.false_ne_true)]
  rfl

theorem Call.testSites_append (calls later : List (Call T C W)) :
    Call.testSites (calls ++ later) = Call.testSites calls ++ Call.testSites later := by
  rw [testSites, List.map_append, List.filter_append]
  rfl

end

namespace Runner

variable {r : Runner T C W} {names : List String} {stage last : Stage T C W}
  {history : List (Happening T C W)} {notRan : List NotRan}

/-- Every call of a test is of the body that is registered there. -/
theorem Makes.isRegistered {call : Call T C W} (h : r.Makes call) :
    call.IsRegistered r.suite r.config := by
  intro place name hsite
  cases h with
  | test hname stage =>
    cases hsite
    exact ⟨_, Testset.getElem?_of_locate? hname, Testset.name_of_locate? hname, rfl⟩
  | _ => cases hsite

/-- If no test teardown fails, each registered name has its turn, and leads to the first test that
bears it. -/
theorem Testing.testSites_eq (h : r.Testing names stage history notRan last)
    (hnames : ∀ name ∈ names, name ∈ r.suite.testNames)
    (hpass : Call.NothingSkipped (Happening.calls history)) :
    Call.testSites (Happening.calls history) =
      names.map fun name => .test (r.suite.placeOf name) name := by
  induction h with
  | done => rfl
  | unknown hname _ _ => exact absurd hname (Testset.locate?_ne_none (hnames _ List.mem_cons_self))
  | tested hname hrun hafter _ _ ih =>
    obtain ⟨-, hrest⟩ := List.forall_mem_cons.mp hnames
    rw [Happening.calls_called, Happening.calls_called, Call.NothingSkipped, List.forall_mem_cons,
      List.forall_mem_cons] at hpass
    rw [Happening.calls_called, Call.testSites_of_isTest (isTest_of_call hrun),
      Happening.calls_called, Call.testSites_of_not_isTest (isTest_of_call hafter),
      ih hrest hpass.2.2, List.map_cons, hrun, call_site, Testset.place_of_locate? hname]
  | @stopped _ _ _ _ _ run after _ _ hafter hfailed =>
    have hsite : after.site = .testTeardown := by rw [hafter, call_site]
    exact absurd (hpass after (by simp) (.inr hsite)) hfailed

theorem Course.testSites_eq (h : r.Course names stage history notRan last)
    (hnames : ∀ name ∈ names, name ∈ r.suite.testNames)
    (hpass : Call.NothingSkipped (Happening.calls history)) :
    Call.testSites (Happening.calls history) =
      names.map fun name => .test (r.suite.placeOf name) name := by
  cases h with
  | @skipped setup _ hsetup hfailed _ =>
    have hsite : setup.site = .setup := by rw [hsetup, call_site]
    exact absurd (hpass setup (by simp) (.inl hsite)) hfailed
  | @tested setup teardown history _ _ hsetup _ htests hteardown =>
    rw [Happening.calls_around] at hpass ⊢
    have hinner : Call.NothingSkipped (Happening.calls history) :=
      fun call hcall => hpass call (List.mem_cons_of_mem _ (List.mem_append_left _ hcall))
    rw [Call.testSites_of_not_isTest (isTest_of_call hsetup), Call.testSites_append,
      Call.testSites_of_not_isTest (isTest_of_call hteardown), htests.testSites_eq hnames hinner]
    exact List.append_nil _

/-- The calls of a run of every registered test. -/
def callsAll (r : Runner T C W) (state : RunState T C W) : List (Call T C W) :=
  ((r.noting id).runAll (state.unnoted _)).state.stage.world.notes

theorem callsAll_eq (r : Runner T C W) (state : RunState T C W) :
    r.callsAll state = r.calls r.suite.testNames none state := by
  rw [callsAll, runAll, calls, (r.noting_shows id).suite.testNames]

end Runner

/-! ### The calls of a campaign -/

namespace Campaign

variable {platform : Platform C W} {campaign : Campaign C W} {suite : Testset T C W}
  {world : W} {acquisition : Acquisition}

/-- The same campaign, in a world where calls are noted. -/
def noting (E : Type) (campaign : Campaign C W) : Campaign C (Noted E W) where
  config := campaign.config
  reconciler := campaign.reconciler
  launcher := campaign.launcher.noted
  seed := campaign.seed
  reuseAllowed := campaign.reuseAllowed
  filter := campaign.filter
  summary := campaign.summary
  panicSite := campaign.panicSite

/-- The calls that a campaign makes of a testset, in order: what is noted if every call is. -/
def calls (platform : Platform C W) (campaign : Campaign C W) (suite : Testset T C W)
    (progress : Option Progress) (entropy : Generator) (world : W) : List (Call T C W) :=
  ((campaign.noting (Call T C W)).runTestset (platform.through Noted.view) (suite.noting id)
    progress entropy ⟨world, []⟩).world.notes

theorem noting_shows (E : Type) (campaign : Campaign C W) :
    Shows Noted.view (campaign.noting E) campaign where
  config := rfl
  reconciler := campaign.reconciler.seen_noted
  launcher := campaign.launcher.noted_shows
  seed := rfl
  reuseAllowed := rfl
  filter := rfl
  summary := rfl
  panicSite := rfl

/-- Asking for a cluster calls no body. -/
theorem acquire_notes (platform : Platform C W) (campaign : Campaign C W) (suite : Testset T C W)
    (noted : Noted (Call T C W) W) :
    let got :=
      acquire (platform.through Noted.view) (campaign.noting _) (suite.noting id) noted
    got.world.notes = noted.notes := by
  have hcustody : Reconciler.Custody (platform.through Noted.view)
      ((campaign.noting _).asks (suite.noting id)).toRequirements
      (fun _ after => after.notes = noted.notes) (fun after => after.notes = noted.notes) := by
    refine Reconciler.custody_of_launcher ?_ ?_ ?_ ?_
    · intro options after h
      show Reconciler.Leaves _ _ (campaign.launcher.noted options after)
      rw [Launcher.noted]
      rcases campaign.launcher options after.world with ⟨_ | cluster, world, printed⟩
      · exact h
      · exact h
    · intro requirement hmem cluster after h
      obtain ⟨plain, -, rfl⟩ := List.mem_map.mp hmem
      exact h
    · intro cluster after h
      exact h
    · intro cluster after h
      exact h
  have hbefore : campaign.reconciler.Keeps (fun _ after => after.notes = noted.notes)
      (fun after => after.notes = noted.notes) noted := by
    rw [Reconciler.Keeps]
    split <;> rfl
  have hkeeps := Reconciler.reconcile_keeps hcustody hbefore campaign.reuseAllowed
  rw [Reconciler.Keeps] at hkeeps
  split at hkeeps
  · exact hkeeps
  · exact hkeeps

/-- What comes of asking for a cluster is what would, if nothing was noted. -/
theorem acquire_noting (platform : Platform C W) (campaign : Campaign C W) (suite : Testset T C W)
    (world : W) (notes : List (Call T C W)) :
    let got := acquire platform campaign suite world
    acquire (platform.through Noted.view) (campaign.noting _) (suite.noting id) ⟨world, notes⟩ =
      ⟨got.outcome, got.reconciler, ⟨got.world, notes⟩, got.printed⟩ := by
  intro got
  have hset : RequirementSet.Shows Noted.view
      ((campaign.noting (Call T C W)).asks (suite.noting id)) (campaign.asks suite) :=
    ⟨(suite.noting_fullyShows id).requirements, campaign.launcher.noted_shows⟩
  have hseen : (acquire (platform.through Noted.view) (campaign.noting _) (suite.noting id)
      ⟨world, notes⟩).seen Noted.view = got := by
    have hgot := Reconciler.reconcile_seen (platform.through_shows Noted.view) hset.toRequirements
      campaign.reconciler campaign.reuseAllowed ⟨world, notes⟩
    rwa [Reconciler.seen_noted] at hgot
  have hnotes := acquire_notes platform campaign suite ⟨world, notes⟩
  generalize acquire (platform.through Noted.view) _ _ _ = noted at hseen hnotes
  rcases noted with ⟨outcome, reconciler, ⟨world', notes'⟩, printed⟩
  obtain rfl : notes' = notes := hnotes
  rw [← hseen]
  simp only [Reconciler.Attempt.seen, Reconciler.seen_noted]
  rfl

/-- With a cluster, the calls are those of a run on it. -/
theorem calls_of_acquired (hok : (acquire platform campaign suite world).outcome = .ok acquisition)
    (progress : Option Progress) (entropy : Generator) :
    let got := acquire platform campaign suite world
    ∃ cluster, got.reconciler.cluster = some cluster ∧
      campaign.calls platform suite progress entropy world =
        (campaign.runner suite).calls (campaign.selected suite) progress
          (opening { campaign with reconciler := got.reconciler } suite entropy cluster
            got.world) := by
  intro got
  obtain ⟨cluster, hheld, -, -⟩ := Reconciler.reconcile_ok hok
  refine ⟨cluster, hheld, ?_⟩
  let noted : Reconciler.Attempt (Except Fault Acquisition) C (Noted (Call T C W) W) :=
    ⟨got.outcome, got.reconciler, ⟨got.world, []⟩, got.printed⟩
  have hok' : noted.outcome = .ok acquisition := hok
  have hselected := (noting_shows (Call T C W) campaign).selected (suite.noting_fullyShows id)
  rw [calls, runTestset, acquire_noting, goOn_of_some hok' hheld]
  exact congrArg (fun names => (((campaign.runner suite).noting id).run names progress
    ((opening { campaign with reconciler := got.reconciler } suite entropy cluster
      got.world).unnoted _)).state.stage.world.notes) hselected

theorem selected_of_filter_none (hfilter : campaign.filter = none) (suite : Testset T C W) :
    campaign.selected suite = suite.testNames := by
  rw [selected_eq, hfilter, Testset.namesContaining]
  exact List.filter_true suite.testNames

end Campaign

/-! ### Full runs -/

namespace Testset

/-- `suite.FullRun config calls`: under settings that ask for no dry run, `calls` are the calls of
a run of all that is registered. -/
inductive FullRun (suite : Testset T C W) (config : Config) : List (Call T C W) → Prop where
  /-- Every registered test is run. -/
  | runner {r : Runner T C W} {state} (hsuite : r.suite = suite) (hconfig : r.config = config)
      (hdry : config.dryRun = false) : FullRun suite config (r.callsAll state)
  /-- A campaign without a filter runs the testset, once it has a cluster for it. -/
  | campaign {platform : Platform C W} {campaign : Campaign C W}
      {progress entropy world acquisition}
      (hconfig : campaign.config = config) (hdry : config.dryRun = false)
      (hfilter : campaign.filter = none)
      (hacquired : (campaign.acquire platform suite world).outcome = .ok acquisition) :
      FullRun suite config (campaign.calls platform suite progress entropy world)

variable {suite : Testset T C W} {config : Config} {calls : List (Call T C W)}

/-- The calls of a full run are those of a course over the registered names. -/
theorem FullRun.exists_course (h : suite.FullRun config calls) :
    ∃ (r : Runner T C W) (stage last : Stage T C W) (history : List (Happening T C W))
      (notRan : List NotRan), r.suite = suite ∧ r.config = config ∧
        r.Course suite.testNames stage history notRan last ∧ calls = Happening.calls history := by
  cases h with
  | @runner r state hsuite hconfig hdry =>
    obtain ⟨history, notRan, last, hcourse⟩ := r.exists_course suite.testNames state.stage
    refine ⟨r, state.stage, last, history, notRan, hsuite, hconfig, hcourse, ?_⟩
    rw [r.callsAll_eq, hsuite, hcourse.calls_run ((congrArg Config.dryRun hconfig).trans hdry)]
  | @campaign platform campaign progress entropy world _ hconfig hdry hfilter hacquired =>
    obtain ⟨cluster, -, hcalls⟩ := Campaign.calls_of_acquired hacquired progress entropy
    rw [hcalls, campaign.selected_of_filter_none hfilter]
    generalize Campaign.opening _ suite entropy cluster _ = state
    obtain ⟨history, notRan, last, hcourse⟩ :=
      (campaign.runner suite).exists_course suite.testNames state.stage
    refine ⟨campaign.runner suite, state.stage, last, history, notRan, rfl, hconfig, hcourse, ?_⟩
    exact hcourse.calls_run ((congrArg Config.dryRun hconfig).trans hdry) progress

/-- **Every registered test has its turn, if names are distinct.** In a full run in which setup and
the test teardowns pass, each call of a test is of the body that is registered at its place. The
registered names have their turns in order, each once, and each at the place of the first test
that bears it. So every registered test has its own turn, once and in order, just when no two of
them bear one name. -/
theorem each_test_called_iff_nodup (hrun : suite.FullRun config calls)
    (hpass : Call.NothingSkipped calls) :
    (∀ call ∈ calls, call.IsRegistered suite config) ∧
      Call.testSites calls =
        suite.testNames.map (fun name => .test (suite.placeOf name) name) ∧
      (Call.testSites calls = suite.sites ↔ suite.testNames.Nodup) := by
  obtain ⟨r, stage, last, history, notRan, rfl, rfl, hcourse, rfl⟩ := hrun.exists_course
  have hsites := hcourse.testSites_eq (fun _ hmem => hmem) hpass
  refine ⟨fun call hmem => (hcourse.makes call hmem).isRegistered, hsites, ?_⟩
  rw [hsites]
  exact r.suite.sites_eq_iff

/-- Two tests, of which the first passes and the second does not. -/
def samplePair (first second : String) : Testset Nat (Nat × Nat) Unit where
  typeName := "Sample"
  name := fun _ => "Sample"
  create := fun _ => 0
  requirements := [Reconciler.sampleRequirement 1]
  tests :=
    [⟨first, .counting fun _ => .passed⟩, ⟨second, .counting fun _ => .failed (.message "late")⟩]
  setup := .counting fun _ => .passed
  teardown := .counting fun _ => .passed
  testTeardown := .counting fun _ => .passed

/-- A campaign runs both tests of a pair with two names. -/
theorem samplePair_each_called :
    let suite := samplePair "b" "a"
    let campaign := (Campaign.start .plain Reconciler.sampleLauncher (.ofUInt64 0) true none).1
    let calls := campaign.calls Reconciler.samplePlatform suite none (.ofSeed (.ofUInt64 0)) ()
    suite.FullRun .plain calls ∧ Call.NothingSkipped calls ∧
      (∀ call ∈ calls, call.IsRegistered suite .plain) ∧
      Call.testSites calls = [.test 0 "b", .test 1 "a"] := by
  intro suite campaign calls
  have hrun : suite.FullRun .plain calls := .campaign rfl rfl rfl rfl
  have hpass : Call.NothingSkipped calls := by decide +kernel
  obtain ⟨hregistered, -, hiff⟩ := each_test_called_iff_nodup hrun hpass
  exact ⟨hrun, hpass, hregistered, hiff.mpr (by decide)⟩

/-- Of two tests with one name the first is run twice and the second never, and the run passes. -/
theorem samplePair_twin_never_called :
    let suite := samplePair "a" "a"
    let r : Runner Nat (Nat × Nat) Unit := ⟨.plain, suite, .ofSeed (.ofUInt64 0), true⟩
    let state : RunState Nat (Nat × Nat) Unit :=
      ⟨⟨0, (0, 1), ()⟩, .ofSeed (.ofUInt64 0), none⟩
    suite.FullRun .plain (r.callsAll state) ∧ Call.NothingSkipped (r.callsAll state) ∧
      suite.sites = [.test 0 "a", .test 1 "a"] ∧
      Call.testSites (r.callsAll state) = [.test 0 "a", .test 0 "a"] ∧
      (r.runAll state).outcome = ⟨2, [], []⟩ := by
  intro suite r state
  exact ⟨.runner rfl rfl rfl, by decide +kernel, by decide +kernel, by decide +kernel,
    by decide +kernel⟩

end Testset

end Testbed
