import Testbed.Proofs.Campaign.Upkeep
import Testbed.Proofs.Campaign.Watch
import Testbed.Proofs.Reconciler.Cleanup
import Testbed.Proofs.Reconciler.Fate

/-!
# Which clusters are never stopped

A campaign that is finished has stopped every cluster that it launched, but for those that a set
of requirements gave up. Such a cluster is out of the reconciler's hands before it was in them:
it was launched, a mutation failed on it, and the launch is told as failed. It goes on running
beside all clusters that come after it.

How many clusters are lost can be said in advance, from the campaign that nobody watches: one for
each testset whose requirements give one up. All others are stopped once, and of these no two are
ever running at a time.

## What is deliberately absent

A body that stops a cluster on its own makes no entry, so a lost cluster counts as running
whatever bodies do. And no claim is made of clusters that a launcher starts and does not return.

## Main definitions

* `Ledger.Outstanding`, `Ledger.NothingLeaks` — clusters that run, and a ledger by which none is
  left
* `Campaign.givesUp` — the next testset loses a cluster
* `Campaign.finished` — a finished campaign on clusters with numbers
* `Campaign.lost` — the numbers of the clusters that are lost

## Main results

* `Campaign.step_balances`, `Campaign.after_balances` — the ledger of a campaign
* `Campaign.leaks_are_given_up`
-/

namespace Testbed

variable {T C W : Type}

/-! ### Clusters that run -/

namespace Ledger

/-- The cluster came into custody, and was not stopped. -/
def Outstanding (entries : List Entry) (id : Nat) : Prop :=
  .acquired id ∈ entries ∧ .stopped id ∉ entries

/-- At no moment do two clusters run, and at the end none does. -/
def NothingLeaks (entries : List Entry) : Prop :=
  (∀ moment, moment <+: entries → ∀ id id', Outstanding moment id → Outstanding moment id' →
      id = id') ∧
    ∀ id, ¬ Outstanding entries id

variable {entries moment : List Entry} {held : Option Nat} {lost : List Nat} {next id : Nat}

theorem Balanced.outstanding_iff (h : Balanced entries held lost next) :
    Outstanding entries id ↔ held = some id ∨ id ∈ lost := by
  rw [Outstanding, h.acquired_mem_iff, ← List.count_eq_zero, h.count_stopped]
  constructor
  · rintro ⟨hlt, hcount⟩
    by_contra hneither
    rw [not_or] at hneither
    rw [if_pos ⟨hlt, hneither⟩] at hcount
    cases hcount
  · rintro (hheld | hlost)
    · exact ⟨(h.known.1 id hheld).1, if_neg fun hall => hall.2.1 hheld⟩
    · exact ⟨h.known.2 id hlost, if_neg fun hall => hall.2.2 hlost⟩

/-- A balanced ledger was balanced at every moment, with none lost but those that are lost now. -/
theorem Balanced.of_moment (h : Balanced entries held lost next) (hmoment : moment <+: entries) :
    ∃ held' lost' next', Balanced moment held' lost' next' ∧ lost' <+: lost := by
  induction h with
  | blank =>
    rw [List.prefix_nil.mp hmoment]
    exact ⟨_, _, _, .blank, List.prefix_rfl⟩
  | requested h ih =>
    rcases List.prefix_concat_iff.mp hmoment with rfl | hmoment
    · exact ⟨_, _, _, .requested h, List.prefix_rfl⟩
    · exact ih hmoment
  | acquired h ih =>
    rcases List.prefix_concat_iff.mp hmoment with rfl | hmoment
    · exact ⟨_, _, _, .acquired h, List.prefix_rfl⟩
    · exact ih hmoment
  | stopped h ih =>
    rcases List.prefix_concat_iff.mp hmoment with rfl | hmoment
    · exact ⟨_, _, _, .stopped h, List.prefix_rfl⟩
    · exact ih hmoment
  | lost _ ih =>
    obtain ⟨held', lost', next', hbalanced, hlost⟩ := ih hmoment
    exact ⟨held', lost', next', hbalanced, hlost.trans (List.prefix_append ..)⟩

/-- Of the clusters that are not lost, no two ever run at a time. -/
theorem Balanced.eq_of_outstanding (h : Balanced entries held lost next)
    (hmoment : moment <+: entries) {id id' : Nat} (hid : Outstanding moment id)
    (hkept : id ∉ lost) (hid' : Outstanding moment id') (hkept' : id' ∉ lost) : id = id' := by
  obtain ⟨held', lost', next', hbalanced, hlost⟩ := h.of_moment hmoment
  have hheld := (hbalanced.outstanding_iff.mp hid).resolve_right fun hmem =>
    hkept (hlost.subset hmem)
  have hheld' := (hbalanced.outstanding_iff.mp hid').resolve_right fun hmem =>
    hkept' (hlost.subset hmem)
  exact Option.some.inj (hheld.symm.trans hheld')

/-- With nothing in custody, nothing leaks just when nothing is lost. -/
theorem Balanced.nothingLeaks_iff (h : Balanced entries none lost next) :
    NothingLeaks entries ↔ lost = [] := by
  constructor
  · rintro ⟨-, hnone⟩
    refine List.eq_nil_iff_forall_not_mem.mpr ?_
    intro id hlost
    exact hnone id (h.outstanding_iff.mpr (.inr hlost))
  · rintro rfl
    constructor
    · intro moment hmoment id id' hid hid'
      exact h.eq_of_outstanding hmoment hid List.not_mem_nil hid' List.not_mem_nil
    · intro id hid
      simpa using h.outstanding_iff.mp hid

/-- The ledger is balanced, with the cluster in custody. -/
def Held (lost : List Nat) (tracked : Tracked C) (ledger : Ledger W) : Prop :=
  Balanced ledger.entries (some tracked.id) lost ledger.next

/-- The ledger is balanced, with no cluster in custody. -/
def Free (lost : List Nat) (ledger : Ledger W) : Prop :=
  Balanced ledger.entries none lost ledger.next

end Ledger

/-! ### A reconciler keeps a balanced ledger -/

/-- The same requirements and launcher, making entries of what is launched. -/
def RequirementSet.tracked (set : RequirementSet C W) : RequirementSet (Tracked C) (Ledger W) :=
  ⟨set.requirements.map (Requirement.through Ledger.view), set.launcher.tracked⟩

section

variable {platform : Platform C W} {launcher : Launcher C W} {set : RequirementSet C W}
  {lost : List Nat} {tracked : Tracked C} {ledger : Ledger W}

theorem Launcher.tracked_free {options : LaunchOptions}
    {launched : Effect (Tracked C) (Ledger W)} {fault : Fault}
    (hlaunched : launcher.tracked options ledger = launched)
    (hresult : launched.result = .error fault) (h : Ledger.Free lost ledger) :
    Ledger.Free lost launched.world := by
  subst hlaunched
  simp only [Launcher.tracked] at hresult ⊢
  generalize launcher options ledger.world = created at hresult ⊢
  rcases created with ⟨_ | cluster, world, printed⟩
  · exact .requested h
  · cases hresult

/-- What is launched has the next number, and is in custody. -/
theorem Launcher.tracked_held {options : LaunchOptions}
    {launched : Effect (Tracked C) (Ledger W)}
    (hlaunched : launcher.tracked options ledger = launched)
    (hresult : launched.result = .ok tracked) (h : Ledger.Free lost ledger) :
    tracked.id = ledger.next ∧ Ledger.Held lost tracked launched.world := by
  subst hlaunched
  simp only [Launcher.tracked] at hresult ⊢
  generalize launcher options ledger.world = created at hresult ⊢
  rcases created with ⟨_ | cluster, world, printed⟩
  · cases hresult
  · cases hresult
    exact ⟨rfl, .acquired (.requested h)⟩

/-- Mutations leave numbers and ledgers alone. -/
theorem RequirementSet.makeAllMet_tracked {onlyUnmet : Bool}
    {requirements : List (Requirement (Tracked C) (Ledger W))}
    {made : Mutation (Tracked C) (Ledger W)}
    (hset : ∀ requirement ∈ requirements, requirement ∈ set.tracked.requirements)
    (hmade : Requirement.makeAllMet onlyUnmet requirements tracked ledger = made)
    (h : Ledger.Held lost tracked ledger) :
    made.cluster.id = tracked.id ∧ Ledger.Held lost made.cluster made.world := by
  subst hmade
  refine Requirement.makeAllMet_keeps
    (P := fun tracked' ledger' => tracked'.id = tracked.id ∧ Ledger.Held lost tracked' ledger')
    onlyUnmet ?_ ⟨rfl, h⟩
  intro requirement hmem tracked' ledger' h'
  obtain ⟨plain, -, rfl⟩ := List.mem_map.mp (hset requirement hmem)
  exact h'

namespace Reconciler

/-- The ledger of a reconciler is balanced. -/
def Balances (lost : List Nat) (r : Reconciler (Tracked C)) (ledger : Ledger W) : Prop :=
  r.Keeps (Ledger.Held lost) (Ledger.Free lost) ledger

theorem stopped_balances (platform : Platform C W) (lost : List Nat) :
    StoppedInto platform.tracked (Ledger.Held lost) (Ledger.Free lost) := by
  intro tracked ledger h
  exact .stopped h

/-- Stopping a cluster gives no number. -/
theorem retire_next (platform : Platform C W) (r : Reconciler (Tracked C)) (ledger : Ledger W) :
    (r.retire platform.tracked ledger).2.next = ledger.next := by
  cases hheld : r.cluster with
  | none => rw [retire_of_none _ hheld]
  | some tracked =>
    rw [retire_of_some _ hheld]
    rfl

/-- A reconciliation keeps the ledger balanced, and loses just the cluster that it gives up. -/
theorem reconcile_balances {r : Reconciler (Tracked C)} (h : r.Balances lost ledger)
    (platform : Platform C W) (set : RequirementSet C W) (reuseAllowed : Bool) :
    let got := r.reconcile platform.tracked set.tracked.toRequirements reuseAllowed ledger
    got.reconciler.Balances
      (lost ++
        if r.givesUp platform.tracked set.tracked reuseAllowed ledger then [ledger.next] else [])
      got.world := by
  have hfree : Ledger.Free lost (r.retire platform.tracked ledger).2 :=
    retire_frees (stopped_balances platform lost) h
  have hnone := retire_cluster platform.tracked r ledger
  have hfate := reconcile_fate platform.tracked r set.tracked reuseAllowed ledger
  generalize r.givesUp platform.tracked set.tracked reuseAllowed ledger = gaveUp at hfate ⊢
  generalize r.reconcile platform.tracked _ reuseAllowed ledger = got at hfate ⊢
  rcases got with ⟨outcome, r', ledger', printed⟩
  cases hfate with
  | @kept cluster made _ hheld hmade hcluster _ =>
    have hunmet : ∀ requirement ∈ set.tracked.unmet cluster,
        requirement ∈ set.tracked.requirements :=
      fun requirement hmem => (List.mem_filter.mp hmem).1
    obtain ⟨-, hstill⟩ := RequirementSet.makeAllMet_tracked hunmet hmade (h.of_some hheld)
    simp only [Bool.false_eq_true, if_false, List.append_nil]
    exact keeps_of_some hcluster hstill
  | notLaunched hlaunched hresult =>
    have hstill := Launcher.tracked_free hlaunched hresult hfree
    simp only [Bool.false_eq_true, if_false, List.append_nil]
    exact keeps_of_none hnone hstill
  | givenUp hlaunched hresult hmade _ =>
    obtain ⟨hid, hheld⟩ := Launcher.tracked_held hlaunched hresult hfree
    obtain ⟨hid', hstill⟩ := RequirementSet.makeAllMet_tracked (fun _ hmem => hmem) hmade hheld
    -- It is in custody up to here, and with no reconciler to hold it, it gets lost.
    have hlost := Ledger.Balanced.lost hstill
    rw [hid', hid, retire_next] at hlost
    simp only [if_true]
    exact keeps_of_none hnone hlost
  | launched hlaunched hresult hmade _ hcluster _ =>
    obtain ⟨-, hheld⟩ := Launcher.tracked_held hlaunched hresult hfree
    obtain ⟨-, hstill⟩ := RequirementSet.makeAllMet_tracked (fun _ hmem => hmem) hmade hheld
    simp only [Bool.false_eq_true, if_false, List.append_nil]
    exact keeps_of_some hcluster hstill

end Reconciler

end

/-! ### The ledger of a campaign -/

/-- The same order, of clusters with numbers. -/
def Order.tracked (order : Order C W) : Order (Tracked C) (Ledger W) :=
  order.map (Testset.through Ledger.view)

/-- Bodies leave numbers and ledgers alone. -/
theorem Testset.through_held (lost : List Nat) (suite : Testset T C W) :
    (suite.through Ledger.view).Keeps fun stage => Ledger.Held lost stage.cluster stage.world where
  setup := by
    intro config generator stage h
    exact h
  tests := by
    intro test hmem config generator stage h
    obtain ⟨plain, -, rfl⟩ := List.mem_map.mp hmem
    exact h
  testTeardown := by
    intro config generator stage h
    exact h
  teardown := by
    intro config generator stage h
    exact h

namespace Campaign

/-- For the testset a cluster is launched, and given up. -/
def givesUp (platform : Platform C W) (campaign : Campaign C W) (suite : Testset T C W)
    (world : W) : Bool :=
  campaign.reconciler.givesUp platform (campaign.asks suite) campaign.reuseAllowed world

theorem givesUp_shows {C' W' : Type} {view : View C' W' C W} {platform' : Platform C' W'}
    {platform : Platform C W} {campaign' : Campaign C' W'} {campaign : Campaign C W}
    {suite' : Testset T C' W'} {suite : Testset T C W}
    (hplatform : Platform.Shows view platform' platform) (h : Shows view campaign' campaign)
    (hsuite : Testset.FullyShows view suite' suite) (world : W') :
    campaign'.givesUp platform' suite' world =
      campaign.givesUp platform suite (view.world world) := by
  have hset : RequirementSet.Shows view (campaign'.asks suite') (campaign.asks suite) :=
    ⟨hsuite.requirements, h.launcher⟩
  rw [givesUp, givesUp, Reconciler.givesUp_seen hplatform hset, h.reconciler, h.reuseAllowed]

/-- The numbers of the clusters that are lost when testsets are run one after the other. -/
def lost (platform : Platform C W) :
    List (Order C W) → Campaign (Tracked C) (Ledger W) × Ledger W → List Nat
  | [], _ => []
  | order :: rest, state =>
    (if state.1.givesUp platform.tracked (order.suite.through Ledger.view) state.2 then
        [state.2.next] else []) ++
      lost platform rest (step platform.tracked state order.tracked)

/-- Nothing is lost just when no testset gives up a cluster. -/
theorem lost_eq_nil_iff {platform : Platform C W} {orders : List (Order C W)}
    {state' : Campaign (Tracked C) (Ledger W) × Ledger W} {state : Campaign C W × W}
    (h : ShowsPair Ledger.view state' state) :
    lost platform orders state' = [] ↔
      ∀ before order later, orders = before ++ order :: later →
        let reached := after platform before state
        reached.1.givesUp platform order.suite reached.2 = false := by
  induction orders generalizing state' state with
  | nil => simp [lost]
  | cons order rest ih =>
    have hgivesUp := givesUp_shows platform.tracked_shows h.1
      (order.suite.through_fullyShows Ledger.view) state'.2
    have hstep : ShowsPair Ledger.view (step platform.tracked state' order.tracked)
        (step platform state order) :=
      after_shows platform.tracked_shows (Testset.through_fullyShows Ledger.view) [order] h
    rw [h.2] at hgivesUp
    rw [lost, List.append_eq_nil_iff, hgivesUp, ih hstep]
    constructor
    · rintro ⟨hfirst, hrest⟩ before order' later hsplit
      cases before with
      | nil =>
        cases hsplit
        simpa [after] using hfirst
      | cons first before =>
        cases hsplit
        exact hrest before order' later rfl
    · intro hall
      have hfirst := hall [] order rest rfl
      refine ⟨?_, fun before order' later hsplit => ?_⟩
      · simpa [after] using hfirst
      · exact hall (order :: before) order' later (congrArg (order :: ·) hsplit)

section

variable {platform : Platform C W} {launcher : Launcher C W} {lost : List Nat}
  {state : Campaign (Tracked C) (Ledger W) × Ledger W}

theorem step_balances (hlauncher : state.1.launcher = launcher.tracked)
    (h : state.1.reconciler.Balances lost state.2) (order : Order C W) :
    let reached := step platform.tracked state order.tracked
    reached.1.reconciler.Balances
      (lost ++
        if state.1.givesUp platform.tracked (order.suite.through Ledger.view) state.2 then
          [state.2.next] else [])
      reached.2 := by
  have hasks : state.1.asks (order.suite.through Ledger.view) =
      RequirementSet.tracked ⟨order.suite.requirements, launcher⟩ := by
    rw [asks, hlauncher]
    rfl
  have hgot := Reconciler.reconcile_balances h platform
    ⟨order.suite.requirements, launcher⟩ state.1.reuseAllowed
  rw [← hasks] at hgot
  exact goOn_keeps (order.suite.through_held _) hgot state.1 order.progress order.entropy

theorem after_balances (orders : List (Order C W))
    (hlauncher : state.1.launcher = launcher.tracked)
    (h : state.1.reconciler.Balances lost state.2) :
    let reached := after platform.tracked (orders.map Order.tracked) state
    reached.1.reconciler.Balances (lost ++ Campaign.lost platform orders state) reached.2 := by
  induction orders generalizing lost state with
  | nil => simpa [Campaign.lost, after] using h
  | cons order rest ih =>
    have hsettings := step_settings platform.tracked state order.tracked
    have hlater := ih (hsettings.launcher.trans hlauncher) (step_balances hlauncher h order)
    rwa [List.append_assoc] at hlater

/-- A campaign that is finished holds nothing, and its ledger is still balanced. -/
theorem finish_balances (platform : Platform C W) (h : state.1.reconciler.Balances lost state.2) :
    Ledger.Free lost (state.1.finish platform.tracked state.2).2 := by
  have hfree : Ledger.Free lost (state.1.reconciler.release platform.tracked state.2).2 :=
    Reconciler.release_frees (Reconciler.stopped_balances platform lost) h
  rwa [finish, Reconciler.drop_of_none _ (Reconciler.release_cluster ..)]

end

/-! ### A whole campaign -/

section

variable (platform : Platform C W) (config : Config) (launcher : Launcher C W) (seed : Seed)
  (reuseAllowed : Bool) (filter : Option String) (world : W)

/-- A campaign on clusters with numbers, before its first testset. -/
def startTracked : Campaign (Tracked C) (Ledger W) × Ledger W :=
  ((start config launcher.tracked seed reuseAllowed filter).1, .blank world)

/-- A campaign on clusters with numbers that is finished after some testsets: the summary, and
the world with the ledger. -/
def finished (orders : List (Order C W)) : Summary × Ledger W :=
  let last := after platform.tracked (orders.map Order.tracked)
    (startTracked config launcher seed reuseAllowed filter world)
  last.1.finish platform.tracked last.2

/-- With numbers and ledger looked away from, it is the campaign itself. -/
theorem finished_seen (orders : List (Order C W)) :
    (finished platform config launcher seed reuseAllowed filter world orders).map id Ledger.world =
      let last := after platform orders ((start config launcher seed reuseAllowed filter).1, world)
      last.1.finish platform last.2 := by
  have hlast : ShowsPair Ledger.view
      (after platform.tracked (orders.map Order.tracked)
        (startTracked config launcher seed reuseAllowed filter world))
      (after platform orders ((start config launcher seed reuseAllowed filter).1, world)) :=
    after_shows platform.tracked_shows (Testset.through_fullyShows Ledger.view) orders
      (start_shows launcher.tracked_shows config seed reuseAllowed filter (.blank world))
  have hfinished := finish_shows platform.tracked_shows hlast.1
    (after platform.tracked (orders.map Order.tracked)
      (startTracked config launcher seed reuseAllowed filter world)).2
  rw [hlast.2] at hfinished
  exact hfinished

/-- **What leaks is what is given up.** In a campaign that is finished, the clusters that were
launched and not stopped are those that a set of requirements gave up; all others were stopped
once, and no two of them ever ran at a time. So nothing leaks just when no testset gives up a
cluster. -/
theorem leaks_are_given_up (orders : List (Order C W)) :
    let plain := after platform orders ((start config launcher seed reuseAllowed filter).1, world)
    let finished := finished platform config launcher seed reuseAllowed filter world orders
    let entries := finished.2.entries
    let lost := lost platform orders (startTracked config launcher seed reuseAllowed filter world)
    finished.map id Ledger.world = plain.1.finish platform plain.2 ∧
      (∀ moment, moment <+: entries → ∀ id id', Ledger.Outstanding moment id → id ∉ lost →
        Ledger.Outstanding moment id' → id' ∉ lost → id = id') ∧
      (∀ id, .acquired id ∈ entries → entries.count (.stopped id) = if id ∈ lost then 0 else 1) ∧
      (∀ id ∈ lost, Ledger.Outstanding entries id) ∧
      (Ledger.NothingLeaks entries ↔
        ∀ before order later, orders = before ++ order :: later →
          let reached := after platform before
            ((start config launcher seed reuseAllowed filter).1, world)
          reached.1.givesUp platform order.suite reached.2 = false) := by
  intro plain finished entries lost
  have hblank : (startTracked config launcher seed reuseAllowed filter world).1.reconciler.Balances
      [] (Ledger.blank world) := .blank
  have hbalanced : Ledger.Balanced entries none lost finished.2.next :=
    finish_balances platform (after_balances orders rfl hblank)
  refine ⟨finished_seen platform config launcher seed reuseAllowed filter world orders, ?_, ?_, ?_,
    ?_⟩
  · intro moment hmoment id id' hid hkept hid' hkept'
    exact hbalanced.eq_of_outstanding hmoment hid hkept hid' hkept'
  · intro id hid
    have hlt := hbalanced.acquired_mem_iff.mp hid
    rw [hbalanced.count_stopped]
    by_cases hlost : id ∈ lost
    · simp [hlost]
    · simp [hlost, hlt]
  · intro id hlost
    exact hbalanced.outstanding_iff.mpr (.inr hlost)
  · have hshows := start_shows launcher.tracked_shows config seed reuseAllowed filter
      (.blank world)
    exact hbalanced.nothingLeaks_iff.trans (lost_eq_nil_iff hshows)

end

/-- A cluster that is never licensed, and cannot be made to be. -/
def sampleLicence : Requirement (Nat × Nat) Unit where
  name := "licensed"
  isMet _ := false
  canBeMet _ := false
  makeMet cluster world := ⟨.error (.cluster "no license"), cluster, world, ""⟩
  configure options := options

/-- A testset that asks for a licence. -/
def sampleUnlicensed : Order (Nat × Nat) Unit where
  Instance := Nat
  suite :=
    { typeName := "Smoke"
      name := fun _ => "Smoke"
      create := fun _ => 0
      requirements := [sampleLicence]
      tests := [⟨"a", .counting fun _ => .passed⟩]
      setup := .counting fun _ => .passed
      teardown := .counting fun _ => .passed
      testTeardown := .counting fun _ => .passed }
  progress := none
  entropy := .ofSeed (.ofUInt64 0)

/-- The cluster that is launched for the licence runs on after the campaign. -/
theorem sample_leaks :
    ¬ Ledger.NothingLeaks (finished Reconciler.samplePlatform .plain Reconciler.sampleLauncher
      (.ofUInt64 0) true none () [sampleUnlicensed]).2.entries := by
  have hentries : (finished Reconciler.samplePlatform .plain Reconciler.sampleLauncher
      (.ofUInt64 0) true none () [sampleUnlicensed]).2.entries = [.requested, .acquired 0] := rfl
  rw [hentries]
  rintro ⟨-, hnone⟩
  exact hnone 0 ⟨by decide, by decide⟩

end Campaign

end Testbed
