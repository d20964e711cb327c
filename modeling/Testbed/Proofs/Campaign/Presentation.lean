import Testbed.Proofs.Campaign.Alike
import Testbed.Proofs.Campaign.SoundCluster

/-!
# Presentation changes no result

Colours, width and verbosity are settings of how things are presented. A testset whose bodies do
not look at them comes to the same whatever they are: with the same outcome, the same place on
record and the same stage, whether its output is captured or streams. So does a campaign: what it
returns, the summary, the reconciler, the world, and all that was done to clusters on the way.

## What is deliberately absent

Nothing is said of texts here. They differ, and are the only thing that does.

Bodies may look at all other settings. Requirements and launchers are not given any.

## Main definitions

* `Config.SameWork` — two configurations that differ only in presentation
* `Testset.SameUnder` — the bodies of a testset tell no difference
* `Order.Again` — the same testset, from another state of the generator
* `Campaign.events` — what was launched, stopped and made to hold

## Main results

* `Campaign.logged_shows` — to take down events changes nothing else
* `Campaign.after_under` — any number of testsets under another presentation
* `Campaign.presentation_changes_no_result`
-/

namespace Testbed

variable {T C W : Type}

/-! ### Settings that do not count -/

/-- The two configurations differ at most in colours, verbosity and width. -/
structure Config.SameWork (config config' : Config) : Prop where
  dryRun : config'.dryRun = config.dryRun
  httpTimeoutSecs : config'.httpTimeoutSecs = config.httpTimeoutSecs
  clusterDir : config'.clusterDir = config.clusterDir
  auth : config'.auth = config.auth

/-- The bodies of a testset do the same under both configurations. -/
structure Testset.SameUnder (config config' : Config) (suite : Testset T C W) : Prop where
  setup : suite.setup config' = suite.setup config
  tests : ∀ test ∈ suite.tests, test.body config' = test.body config
  testTeardown : suite.testTeardown config' = suite.testTeardown config
  teardown : suite.teardown config' = suite.teardown config

/-- The texts may be anything. -/
def Likeness.anyText : Likeness where
  text _ _ := True
  error _ := True
  site _ := True
  text_empty := trivial
  text_append _ _ := trivial

namespace Runner

variable {r r' : Runner T C W}

/-- Phases come to the same under both configurations, whether they are captured or stream. -/
theorem invoke_anyText (hdry : r'.config.dryRun = r.config.dryRun) (hchain : r'.chain = r.chain)
    (hsuite : r'.suite = r.suite) (phase : Phase) {body : Body T C W}
    (hbody : body r'.config = body r.config) : r.InvokedAlike .anyText r' phase body body := by
  refine invoke_alike hdry hchain (by rw [hsuite]) (fun _ _ _ => trivial) ?_
  intro _ generator entry
  rw [hbody]
  exact ⟨rfl, rfl, rfl, fun _ _ => trivial, fun _ _ _ _ => trivial, fun _ _ => trivial⟩

theorem alike_anyText (hdry : r'.config.dryRun = r.config.dryRun) (hchain : r'.chain = r.chain)
    (hsuite : r'.suite = r.suite) (h : r.suite.SameUnder r.config r'.config) :
    r.Alike .anyText r' := by
  have hinvoke (phase : Phase) {body : Body T C W} (hbody : body r'.config = body r.config) :=
    invoke_anyText hdry hchain hsuite phase hbody
  refine ⟨hdry, by rw [hsuite], ?_, ?_, ?_, ?_⟩
  · rw [hsuite]
    exact hinvoke .setup h.setup
  · rw [hsuite, List.forall₂_same]
    intro test hmem
    exact ⟨rfl, hinvoke (.test test.name) (h.tests test hmem)⟩
  · rw [hsuite]
    exact hinvoke .testTeardown h.testTeardown
  · rw [hsuite]
    exact hinvoke .teardown h.teardown

end Runner

/-! ### One testset after the other -/

/-- The same testset is to be run, from any state of the generator. -/
def Order.Again (order order' : Order C W) : Prop :=
  ∃ entropy, order' = { order with entropy }

namespace Campaign

variable {config : Config} {orders orders' : List (Order C W)}

theorem runTestset_under (platform : Platform C W) {campaign : Campaign C W}
    {suite : Testset T C W} (hdry : config.dryRun = campaign.config.dryRun)
    (hsuite : suite.SameUnder campaign.config config) (progress : Option Progress)
    (entropy entropy' : Generator) (world : W) :
    Attempt.Alike .anyText config (campaign.runTestset platform suite progress entropy world)
      ((campaign.under config).runTestset platform suite progress entropy' world) :=
  runTestset_alike (Runner.alike_anyText hdry rfl rfl hsuite) (fun _ => trivial)
    (fun _ _ => trivial) (fun _ _ _ => trivial) trivial

/-- Any number of testsets return the same and leave the same, under another presentation. -/
theorem after_under (platform : Platform C W) (state : Campaign C W × W)
    (hdry : config.dryRun = state.1.config.dryRun)
    (horders : List.Forall₂ Order.Again orders orders')
    (hsuites : ∀ order ∈ orders, order.suite.SameUnder state.1.config config) :
    results platform orders' (state.1.under config, state.2) = results platform orders state ∧
      after platform orders' (state.1.under config, state.2) =
        (after platform orders state).map (under config) id := by
  induction horders generalizing state with
  | nil => exact ⟨rfl, rfl⟩
  | @cons order order' _ _ hagain _ ih =>
    obtain ⟨entropy, rfl⟩ := hagain
    obtain ⟨hfirst, hrest⟩ := List.forall_mem_cons.mp hsuites
    have halike := runTestset_under platform hdry hfirst order.progress order.entropy entropy
      state.2
    have hconfig := (step_settings platform state order).config
    -- The next testset finds the same state again, under the other configuration.
    have hstep : step platform (state.1.under config, state.2) { order with entropy } =
        ((step platform state order).1.under config, (step platform state order).2) :=
      Prod.ext halike.campaign halike.world
    rw [← hconfig] at hdry hrest
    obtain ⟨hresults, hafter⟩ := ih _ hdry hrest
    refine ⟨?_, ?_⟩
    · rw [results, results, hstep, hresults]
      exact congrArg (· :: _) halike.result
    · rw [after, List.foldl_cons, hstep]
      exact hafter

end Campaign

/-! ### Events -/

/-- Something that is done to clusters. -/
inductive Event where
  | launch (options : LaunchOptions)
  /-- The cluster of a generation is stopped. -/
  | teardown (index : Nat)
  /-- The mutation of a requirement is applied. -/
  | makeMet (requirement : String)
  deriving DecidableEq, Repr

/-- Takes down one more event. -/
def Noted.log (event : Event) (noted : Noted Event W) (world : W) : Noted Event W :=
  ⟨world, noted.notes ++ [event]⟩

/-- The same platform, with every teardown taken down. -/
def Platform.logged (platform : Platform C W) : Platform C (Noted Event W) :=
  { platform.through Noted.view with
    teardown := fun cluster noted =>
      (platform.teardown cluster noted.world).map id
        (noted.log (.teardown (platform.index cluster))) }

/-- The same launcher, with every launch taken down. -/
def Launcher.logged (launcher : Launcher C W) : Launcher C (Noted Event W) :=
  fun options noted =>
    let launched := launcher options noted.world
    ⟨launched.result, noted.log (.launch options) launched.world, launched.printed⟩

/-- The same requirement, with every mutation taken down. -/
def Requirement.logged (requirement : Requirement C W) : Requirement C (Noted Event W) where
  name := requirement.name
  isMet := requirement.isMet
  canBeMet := requirement.canBeMet
  makeMet cluster noted :=
    let made := requirement.makeMet cluster noted.world
    ⟨made.result, made.cluster, noted.log (.makeMet requirement.name) made.world, made.printed⟩
  configure := requirement.configure

/-- The same testset, with every mutation for it taken down. -/
def Testset.logged (suite : Testset T C W) : Testset T C (Noted Event W) :=
  { suite.through Noted.view with requirements := suite.requirements.map Requirement.logged }

theorem Platform.logged_shows (platform : Platform C W) :
    Platform.Shows Noted.view platform.logged platform where
  index _ := rfl
  processCount _ := rfl
  teardown _ _ := rfl

theorem Launcher.logged_shows (launcher : Launcher C W) :
    Launcher.Shows Noted.view launcher.logged launcher := by
  intro options noted
  show _ = launcher options noted.world
  rw [Launcher.logged]
  generalize launcher options noted.world = launched
  rcases launched with ⟨_ | _, world, printed⟩ <;> rfl

theorem Testset.logged_shows (suite : Testset T C W) :
    Testset.FullyShows Noted.view suite.logged suite where
  toShows := by
    obtain ⟨-, tests, setup, teardown, testTeardown⟩ :=
      suite.through_shows (Noted.view (E := Event))
    exact ⟨rfl, tests, setup, teardown, testTeardown⟩
  typeName := rfl
  create _ := rfl
  requirements := by
    rw [Testset.logged, List.forall₂_map_left_iff, List.forall₂_same]
    intro requirement _
    exact ⟨rfl, fun _ => rfl, fun _ => rfl, fun _ _ => rfl, rfl⟩

theorem Testset.SameUnder.logged {config config' : Config} {suite : Testset T C W}
    (h : suite.SameUnder config config') : suite.logged.SameUnder config config' := by
  have hthrough {body : Body T C W} (hbody : body config' = body config) :
      (body.through Noted.view : Body T C (Noted Event W)) config' =
        body.through Noted.view config := by
    funext generator stage
    rw [Body.through, Body.through, hbody]
  refine ⟨hthrough h.setup, ?_, hthrough h.testTeardown, hthrough h.teardown⟩
  intro test hmem
  obtain ⟨plain, hplain, rfl⟩ := List.mem_map.mp hmem
  exact hthrough (h.tests plain hplain)

namespace Campaign

section

variable (platform : Platform C W) (config : Config) (launcher : Launcher C W) (seed : Seed)
  (reuseAllowed : Bool) (filter : Option String) (world : W)

/-- A campaign and its world, once several testsets were run in order and events taken down. -/
def afterLogged (orders : List (Order C W)) : Campaign C (Noted Event W) × Noted Event W :=
  after platform.logged (orders.map (Order.map Testset.logged))
    ((start config launcher.logged seed reuseAllowed filter).1, ⟨world, []⟩)

/-- To take down events changes nothing else. -/
theorem logged_shows (orders : List (Order C W)) :
    ShowsPair Noted.view
      (afterLogged platform config launcher seed reuseAllowed filter world orders)
      (after platform orders ((start config launcher seed reuseAllowed filter).1, world)) :=
  after_shows platform.logged_shows Testset.logged_shows orders
    (start_shows launcher.logged_shows config seed reuseAllowed filter ⟨world, []⟩)

/-- What was done to clusters, in order. -/
def events (orders : List (Order C W)) : List Event :=
  (afterLogged platform config launcher seed reuseAllowed filter world orders).2.notes

end

variable {config config' : Config} {orders orders' : List (Order C W)}

theorem start_under (hwork : config.SameWork config') (launcher : Launcher C W) (seed : Seed)
    (reuseAllowed : Bool) (filter : Option String) :
    (start config' launcher seed reuseAllowed filter).1 =
      (start config launcher seed reuseAllowed filter).1.under config' := by
  simp only [start, under, Reconciler.ofConfig, Reconciler.withVerbose, Config.httpTimeout,
    hwork.httpTimeoutSecs, hwork.clusterDir, hwork.auth]

theorem finish_under (config : Config) (platform : Platform C W) (campaign : Campaign C W)
    (world : W) :
    (campaign.under config).finish platform world = campaign.finish platform world := by
  rcases campaign with ⟨_, ⟨_ | cluster, _⟩, _⟩ <;> rfl

/-- The same is done to clusters, under another presentation. -/
theorem events_under (platform : Platform C W) (hwork : config.SameWork config')
    (launcher : Launcher C W) (seed : Seed) (reuseAllowed : Bool) (filter : Option String)
    (world : W) (horders : List.Forall₂ Order.Again orders orders')
    (hsuites : ∀ order ∈ orders, order.suite.SameUnder config config') :
    events platform config' launcher seed reuseAllowed filter world orders' =
      events platform config launcher seed reuseAllowed filter world orders := by
  have hlogged : List.Forall₂ Order.Again (orders.map (Order.map Testset.logged))
      (orders'.map (Order.map Testset.logged)) := by
    rw [List.forall₂_map_left_iff, List.forall₂_map_right_iff]
    refine horders.imp ?_
    rintro order _ ⟨entropy, rfl⟩
    exact ⟨entropy, rfl⟩
  have hsuites' : ∀ order ∈ orders.map (Order.map Testset.logged),
      order.suite.SameUnder config config' := by
    intro order hmem
    obtain ⟨plain, hplain, rfl⟩ := List.mem_map.mp hmem
    exact (hsuites plain hplain).logged
  obtain ⟨-, hafter⟩ := after_under platform.logged
    ((start config launcher.logged seed reuseAllowed filter).1, (⟨world, []⟩ : Noted Event W))
    hwork.dryRun hlogged hsuites'
  rw [← start_under hwork] at hafter
  exact congrArg (fun state => state.2.notes) hafter

/-- **Presentation changes no result.** Under two configurations that differ only in colours,
verbosity and width, testsets whose bodies do not look at these return the same, and leave the same
summary, reconciler and world behind, however many there are; and the same was done to clusters, in
the same order. The run of a testset alone has the same outcome and leaves the same state, also if
its output is captured in the one case and streams in the other. -/
theorem presentation_changes_no_result (platform : Platform C W) (hwork : config.SameWork config')
    (launcher : Launcher C W) (seed : Seed) (reuseAllowed : Bool) (filter : Option String)
    (world : W) :
    (∀ orders orders' : List (Order C W), List.Forall₂ Order.Again orders orders' →
      (∀ order ∈ orders, order.suite.SameUnder config config') →
        let before (config : Config) := ((start config launcher seed reuseAllowed filter).1, world)
        let last := after platform orders (before config)
        let last' := after platform orders' (before config')
        results platform orders' (before config') = results platform orders (before config) ∧
          last'.1.summary = last.1.summary ∧ last'.1.panicSite = last.1.panicSite ∧
          last'.1.reconciler = last.1.reconciler.withVerbose config'.verbose ∧
          last'.2 = last.2 ∧
          last'.1.finish platform last'.2 = last.1.finish platform last.2 ∧
          events platform config' launcher seed reuseAllowed filter world orders' =
            events platform config launcher seed reuseAllowed filter world orders) ∧
      ∀ {T : Type} (suite : Testset T C W), suite.SameUnder config config' →
        ∀ chain intercept intercept' names progress state,
          let run := (⟨config, suite, chain, intercept⟩ : Runner T C W).run names progress state
          let run' :=
            (⟨config', suite, chain, intercept'⟩ : Runner T C W).run names progress state
          run'.outcome = run.outcome ∧ run'.state.stage = run.state.stage ∧
            run'.state.panicSite = run.state.panicSite := by
  constructor
  · intro orders orders' horders hsuites before last last'
    have hstart : before config' = ((before config).1.under config', (before config).2) :=
      Prod.ext (start_under hwork launcher seed reuseAllowed filter) rfl
    obtain ⟨hresults, hafter⟩ :=
      after_under platform (before config) hwork.dryRun horders hsuites
    rw [← hstart] at hresults hafter
    have hlast : last' = (last.1.under config', last.2) := hafter
    rw [hlast]
    refine ⟨hresults, rfl, rfl, rfl, rfl, finish_under config' platform last.1 last.2, ?_⟩
    exact events_under platform hwork launcher seed reuseAllowed filter world horders hsuites
  · intro T suite hsuite chain intercept intercept' names progress state run run'
    have halike : (⟨config, suite, chain, intercept⟩ : Runner T C W).Alike .anyText
        ⟨config', suite, chain, intercept'⟩ :=
      Runner.alike_anyText hwork.dryRun rfl rfl hsuite
    obtain ⟨houtcome, -, hstate, -⟩ := Runner.run_alike halike
      ⟨rfl, rfl, fun _ _ => trivial⟩ trivial fun _ _ _ => trivial
    exact ⟨houtcome, hstate.stage, hstate.panicSite⟩

/-- The bodies of the samples look at no setting, and what is done for them is done under loud and
quiet settings alike. -/
theorem sample_presentation_changes_no_result :
    let loud : Config := { useColors := true, verbose := true, width := 120 }
    let orders := [sampleOrder 2, sampleOrder 1, sampleOrder 5]
    let orders' := orders.map fun order => { order with entropy := .ofSeed (.ofUInt64 7) }
    let launch (index : Nat) : Event :=
      .launch { auth := ⟨"Administrator", "asdasd"⟩, index, dir := "cluster_run" }
    let before (config : Config) : Campaign (Nat × Nat) Unit × Unit :=
      ((start config Reconciler.sampleLauncher (.ofUInt64 0) true none).1, ())
    let run (config : Config) (intercept : Bool) :=
      (⟨config, (sampleOrder 2).suite, .ofSeed (.ofUInt64 0), intercept⟩ :
        Runner Nat (Nat × Nat) Unit).run ["grow", "x"] none
          ⟨⟨0, (0, 1), ()⟩, .ofSeed (.ofUInt64 0), none⟩
    Config.plain.SameWork loud ∧ List.Forall₂ Order.Again orders orders' ∧
      (∀ order ∈ orders, order.suite.SameUnder .plain loud) ∧
      results Reconciler.samplePlatform orders' (before loud) =
        results Reconciler.samplePlatform orders (before .plain) ∧
      events Reconciler.samplePlatform loud Reconciler.sampleLauncher (.ofUInt64 0) true none ()
          orders' =
        [launch 0, .makeMet "Size", .makeMet "Size", .teardown 0, launch 2, .makeMet "Size"] ∧
      (run loud false).outcome = (run .plain true).outcome := by
  intro loud orders orders' launch before run
  have hwork : Config.plain.SameWork loud := ⟨rfl, rfl, rfl, rfl⟩
  have horders : List.Forall₂ Order.Again orders orders' := by
    rw [List.forall₂_map_right_iff, List.forall₂_same]
    intro order _
    exact ⟨_, rfl⟩
  have hsuite (size : Nat) : (sampleOrder size).suite.SameUnder .plain loud :=
    ⟨rfl, List.forall_mem_singleton.mpr rfl, rfl, rfl⟩
  have hsuites : ∀ order ∈ orders, order.suite.SameUnder .plain loud :=
    List.forall_mem_cons.mpr ⟨hsuite 2, List.forall_mem_cons.mpr
      ⟨hsuite 1, List.forall_mem_singleton.mpr (hsuite 5)⟩⟩
  obtain ⟨hcampaign, hrunner⟩ := presentation_changes_no_result Reconciler.samplePlatform hwork
    Reconciler.sampleLauncher (.ofUInt64 0) true none ()
  obtain ⟨hresults, -, -, -, -, -, hevents⟩ := hcampaign orders orders' horders hsuites
  obtain ⟨houtcome, -, -⟩ := hrunner _ (hsuite 2) (.ofSeed (.ofUInt64 0)) true false
    ["grow", "x"] none ⟨⟨(0 : Nat), (0, 1), ()⟩, .ofSeed (.ofUInt64 0), none⟩
  refine ⟨hwork, horders, hsuites, hresults, hevents.trans ?_, houtcome⟩
  decide +kernel

end Campaign

end Testbed
