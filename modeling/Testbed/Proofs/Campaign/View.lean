import Testbed.Campaign.Basic
import Testbed.Proofs.Reconciler.View

/-!
# Campaigns on clusters that carry more than is seen

A campaign looks at clusters through its reconciler, its launcher and the bodies of its testsets.
If all of these show, through a view, others that know nothing of what is carried beside, then a
campaign shows the campaign of the others, testset after testset.

## Main definitions

* `Testset.FullyShows`, `Campaign.Shows` — one that is another, seen through a view
* `Order`, `Campaign.after` — testsets that are run one after the other

## Main results

* `Campaign.runTestset_shows` — one testset
* `Campaign.after_shows` — any number of them
-/

namespace Testbed

variable {T C' W' C W : Type} {view : View C' W' C W}

/-! ### Testsets -/

/-- Seen through the view, all that a campaign has to do with in the one testset is that in the
other. -/
structure Testset.FullyShows (view : View C' W' C W) (suite' : Testset T C' W')
    (suite : Testset T C W) : Prop extends Testset.Shows view suite' suite where
  typeName : suite'.typeName = suite.typeName
  create : ∀ cluster, suite'.create cluster = suite.create (view.cluster cluster)
  requirements : List.Forall₂ (Requirement.Shows view) suite'.requirements suite.requirements

theorem Testset.through_fullyShows (view : View C' W' C W) (suite : Testset T C W) :
    Testset.FullyShows view (suite.through view) suite where
  toShows := suite.through_shows view
  typeName := rfl
  create _ := rfl
  requirements := Requirement.map_through_shows view suite.requirements

theorem Testset.Shows.testNames {suite' : Testset T C' W'} {suite : Testset T C W}
    (h : Testset.Shows view suite' suite) : suite'.testNames = suite.testNames := by
  have htests := h.tests
  rw [Testset.testNames, Testset.testNames]
  generalize suite'.tests = tests', suite.tests = tests at htests
  induction htests with
  | nil => rfl
  | cons hd _ ih => rw [List.map_cons, List.map_cons, hd.1, ih]

/-! ### Campaigns -/

namespace Campaign

/-- Seen through the view, the one campaign is the other. -/
structure Shows (view : View C' W' C W) (campaign' : Campaign C' W') (campaign : Campaign C W) :
    Prop where
  config : campaign'.config = campaign.config
  reconciler : campaign'.reconciler.seen view = campaign.reconciler
  launcher : Launcher.Shows view campaign'.launcher campaign.launcher
  seed : campaign'.seed = campaign.seed
  reuseAllowed : campaign'.reuseAllowed = campaign.reuseAllowed
  filter : campaign'.filter = campaign.filter
  summary : campaign'.summary = campaign.summary
  panicSite : campaign'.panicSite = campaign.panicSite

/-- Seen through the view, the one testset came to the same as the other. -/
structure Attempt.Shows (view : View C' W' C W) (attempt' : Attempt C' W')
    (attempt : Attempt C W) : Prop where
  result : attempt'.result = attempt.result
  campaign : Campaign.Shows view attempt'.campaign attempt.campaign
  world : view.world attempt'.world = attempt.world
  printed : attempt'.printed = attempt.printed

variable {platform' : Platform C' W'} {platform : Platform C W} {suite' : Testset T C' W'}
  {suite : Testset T C W} {campaign' : Campaign C' W'} {campaign : Campaign C W}

theorem Shows.selected (h : Shows view campaign' campaign)
    (hsuite : Testset.FullyShows view suite' suite) :
    campaign'.selected suite' = campaign.selected suite := by
  have hselects : campaign'.selects = campaign.selects := by
    funext name
    rw [selects, selects, h.filter]
  rw [Campaign.selected, Campaign.selected, hselects, hsuite.testNames]

theorem runner_shows (h : Shows view campaign' campaign)
    (hsuite : Testset.FullyShows view suite' suite) :
    Runner.Shows view (campaign'.runner suite') (campaign.runner suite) where
  config := h.config
  chain := congrArg SeedChain.ofSeed h.seed
  intercept := rfl
  suite := hsuite.toShows

theorem opening_seen (h : Shows view campaign' campaign)
    (hsuite : Testset.FullyShows view suite' suite) (entropy : Generator) (cluster : C')
    (world : W') :
    (campaign'.opening suite' entropy cluster world).seen view =
      campaign.opening suite entropy (view.cluster cluster) (view.world world) := by
  rw [opening, opening, hsuite.create, h.panicSite]
  rfl

theorem runOn_shows (h : Shows view campaign' campaign)
    (hsuite : Testset.FullyShows view suite' suite) (progress : Option Progress)
    (entropy : Generator) (cluster : C') (world : W') :
    Attempt.Shows view (campaign'.runOn suite' progress entropy cluster world)
      (campaign.runOn suite progress entropy (view.cluster cluster) (view.world world)) := by
  have hrun := Runner.run_seen (runner_shows h hsuite) (campaign'.selected suite') progress
    (campaign'.opening suite' entropy cluster world)
  rw [opening_seen h hsuite, h.selected hsuite] at hrun
  rw [runOn, runOn, ← hrun, h.selected hsuite]
  generalize (campaign'.runner suite').run _ _ _ = run
  refine ⟨rfl, { h with reconciler := ?_, summary := ?_, panicSite := rfl }, rfl, rfl⟩
  · rw [← h.reconciler]
    rfl
  · show campaign'.summary.record _ = campaign.summary.record _
    rw [h.summary]
    rfl

theorem giveUp_shows (h : Shows view campaign' campaign)
    (hsuite : Testset.FullyShows view suite' suite) (fault : Fault) (world : W') :
    Attempt.Shows view (campaign'.giveUp suite' fault world)
      (campaign.giveUp suite fault (view.world world)) := by
  have hunavailable : unavailable suite' (campaign'.selected suite') fault =
      unavailable suite (campaign.selected suite) fault := by
    rw [unavailable, unavailable, h.selected hsuite, hsuite.typeName]
  rw [giveUp, giveUp, hunavailable]
  split
  · exact ⟨rfl, h, rfl, rfl⟩
  · refine ⟨rfl, { h with summary := ?_ }, rfl, rfl⟩
    show campaign'.summary.record _ = campaign.summary.record _
    rw [h.summary]

theorem goOn_shows (h : Shows view campaign' campaign)
    (hsuite : Testset.FullyShows view suite' suite) (progress : Option Progress)
    (entropy : Generator) (got : Reconciler.Attempt (Except Fault Acquisition) C' W') :
    Attempt.Shows view (campaign'.goOn suite' progress entropy got)
      (campaign.goOn suite progress entropy (got.seen view)) := by
  have hafter : Shows view { campaign' with reconciler := got.reconciler }
      { campaign with reconciler := got.reconciler.seen view } := { h with reconciler := rfl }
  have printed_before {attempt' : Attempt C' W'} {attempt : Attempt C W}
      (h : Attempt.Shows view attempt' attempt) :
      Attempt.Shows view { attempt' with printed := got.printed ++ attempt'.printed }
        { attempt with printed := got.printed ++ attempt.printed } :=
    { h with printed := congrArg (got.printed ++ ·) h.printed }
  rcases got with ⟨_ | acquisition, ⟨_ | cluster, _⟩, world, printed⟩
  · exact printed_before (giveUp_shows hafter hsuite _ world)
  · exact printed_before (giveUp_shows hafter hsuite _ world)
  · exact printed_before (giveUp_shows hafter hsuite _ world)
  · exact printed_before (runOn_shows hafter hsuite progress entropy cluster world)

/-- A testset in the one campaign shows the testset in the other. -/
theorem runTestset_shows (hplatform : Platform.Shows view platform' platform)
    (h : Shows view campaign' campaign) (hsuite : Testset.FullyShows view suite' suite)
    (progress : Option Progress) (entropy : Generator) (world : W') :
    Attempt.Shows view (campaign'.runTestset platform' suite' progress entropy world)
      (campaign.runTestset platform suite progress entropy (view.world world)) := by
  have hset : RequirementSet.Shows view (campaign'.asks suite') (campaign.asks suite) :=
    ⟨hsuite.requirements, h.launcher⟩
  have hgot := Reconciler.reconcile_seen hplatform hset.toRequirements campaign'.reconciler
    campaign'.reuseAllowed world
  rw [h.reconciler, h.reuseAllowed] at hgot
  rw [runTestset, runTestset, acquire, acquire, ← hgot, h.reuseAllowed]
  exact goOn_shows h hsuite progress entropy _

/-- What is left of the one campaign when it is finished is what is left of the other. -/
theorem finish_shows (hplatform : Platform.Shows view platform' platform)
    (h : Shows view campaign' campaign) (world : W') :
    (campaign'.finish platform' world).map id view.world =
      campaign.finish platform (view.world world) := by
  have hreleased := Reconciler.release_seen hplatform campaign'.reconciler world
  rw [h.reconciler] at hreleased
  rw [finish, finish, h.summary, ← hreleased]
  exact congrArg (campaign.summary, ·) (Reconciler.drop_seen hplatform _ _)

end Campaign

/-! ### One testset after the other -/

/-- A testset that is to be run. -/
structure Order (C W : Type) : Type 1 where
  Instance : Type
  suite : Testset Instance C W
  progress : Option Progress
  /-- The state of the generator at the start, of which nothing is seen. -/
  entropy : Generator

/-- The same order, with another testset of the same instances. -/
def Order.map (change : {T : Type} → Testset T C W → Testset T C' W') (order : Order C W) :
    Order C' W' where
  Instance := order.Instance
  suite := change order.suite
  progress := order.progress
  entropy := order.entropy

namespace Campaign

/-- A campaign and its world, once a testset was run. -/
def step (platform : Platform C W) (state : Campaign C W × W) (order : Order C W) :
    Campaign C W × W :=
  let attempt := state.1.runTestset platform order.suite order.progress order.entropy state.2
  (attempt.campaign, attempt.world)

/-- A campaign and its world, once several testsets were run in order. -/
def after (platform : Platform C W) (orders : List (Order C W)) (state : Campaign C W × W) :
    Campaign C W × W :=
  orders.foldl (step platform) state

/-- What is seen of the one campaign and its world is the other. -/
def ShowsPair (view : View C' W' C W) (state' : Campaign C' W' × W') (state : Campaign C W × W) :
    Prop :=
  Shows view state'.1 state.1 ∧ view.world state'.2 = state.2

theorem start_shows {launcher' : Launcher C' W'} {launcher : Launcher C W}
    (hlauncher : Launcher.Shows view launcher' launcher) (config : Config) (seed : Seed)
    (reuseAllowed : Bool) (filter : Option String) (world : W') :
    ShowsPair view ((start config launcher' seed reuseAllowed filter).1, world)
      ((start config launcher seed reuseAllowed filter).1, view.world world) :=
  ⟨⟨rfl, rfl, hlauncher, rfl, rfl, rfl, rfl, rfl⟩, rfl⟩

/-- A campaign shows the other, testset after testset. -/
theorem after_shows {platform' : Platform C' W'} {platform : Platform C W}
    (hplatform : Platform.Shows view platform' platform)
    {change : {T : Type} → Testset T C W → Testset T C' W'}
    (hchange : ∀ {T : Type} (suite : Testset T C W),
      Testset.FullyShows view (change suite) suite)
    (orders : List (Order C W)) {state' : Campaign C' W' × W'} {state : Campaign C W × W}
    (h : ShowsPair view state' state) :
    ShowsPair view (after platform' (orders.map (Order.map change)) state')
      (after platform orders state) := by
  induction orders generalizing state' state with
  | nil => exact h
  | cons order rest ih =>
    have hattempt := runTestset_shows hplatform h.1 (hchange order.suite) order.progress
      order.entropy state'.2
    rw [h.2] at hattempt
    exact ih ⟨hattempt.campaign, hattempt.world⟩

end Campaign

end Testbed
