import Testbed.Proofs.Campaign.View
import Testbed.Proofs.Reconciler.Custody
import Testbed.Proofs.Testset.Upkeep

/-!
# What a testset leaves as it was

A testset changes the reconciler, the summary and the place of a panic; the settings of the
campaign stay. And what it does to the held cluster is what its bodies do, once the reconciler
has been asked: a condition on the cluster and the world that holds then, and that every body
keeps, holds after the testset, whatever became of it.

## Main definitions

* `Campaign.SameSettings` — two campaigns with the same settings

## Main results

* `Campaign.step_settings`, `Campaign.after_settings`
* `Campaign.goOn_keeps`
-/

namespace Testbed.Campaign

variable {T C W : Type} {platform : Platform C W} {campaign : Campaign C W}
  {suite : Testset T C W} {got : Reconciler.Attempt (Except Fault Acquisition) C W}

theorem giveUp_campaign (campaign : Campaign C W) (suite : Testset T C W) (fault : Fault)
    (world : W) :
    let attempt := campaign.giveUp suite fault world
    attempt.campaign.config = campaign.config ∧ attempt.campaign.launcher = campaign.launcher ∧
      attempt.campaign.reconciler = campaign.reconciler ∧ attempt.world = world := by
  rw [giveUp]
  split
  · exact ⟨rfl, rfl, rfl, rfl⟩
  · exact ⟨rfl, rfl, rfl, rfl⟩

/-! ### Settings -/

/-- The settings of the one campaign are those of the other. -/
structure SameSettings (campaign' campaign : Campaign C W) : Prop where
  config : campaign'.config = campaign.config
  launcher : campaign'.launcher = campaign.launcher
  seed : campaign'.seed = campaign.seed
  reuseAllowed : campaign'.reuseAllowed = campaign.reuseAllowed
  filter : campaign'.filter = campaign.filter

theorem SameSettings.refl (campaign : Campaign C W) : SameSettings campaign campaign :=
  ⟨rfl, rfl, rfl, rfl, rfl⟩

theorem SameSettings.trans {first second third : Campaign C W} (h : SameSettings first second)
    (h' : SameSettings second third) : SameSettings first third :=
  ⟨h.config.trans h'.config, h.launcher.trans h'.launcher, h.seed.trans h'.seed,
    h.reuseAllowed.trans h'.reuseAllowed, h.filter.trans h'.filter⟩

theorem giveUp_settings (campaign : Campaign C W) (suite : Testset T C W) (fault : Fault)
    (world : W) : SameSettings (campaign.giveUp suite fault world).campaign campaign := by
  rw [giveUp]
  split
  · exact .refl campaign
  · exact ⟨rfl, rfl, rfl, rfl, rfl⟩

theorem goOn_settings (campaign : Campaign C W) (suite : Testset T C W)
    (progress : Option Progress) (entropy : Generator)
    (got : Reconciler.Attempt (Except Fault Acquisition) C W) :
    SameSettings (campaign.goOn suite progress entropy got).campaign campaign := by
  have hgot : SameSettings { campaign with reconciler := got.reconciler } campaign :=
    ⟨rfl, rfl, rfl, rfl, rfl⟩
  cases houtcome : got.outcome with
  | error fault =>
    rw [goOn_of_error houtcome]
    exact (giveUp_settings _ suite fault got.world).trans hgot
  | ok acquisition =>
    cases hheld : got.reconciler.cluster with
    | none =>
      rw [goOn_of_none houtcome hheld]
      exact (giveUp_settings _ suite _ got.world).trans hgot
    | some cluster =>
      rw [goOn_of_some houtcome hheld]
      exact ⟨rfl, rfl, rfl, rfl, rfl⟩

theorem step_settings (platform : Platform C W) (state : Campaign C W × W) (order : Order C W) :
    SameSettings (step platform state order).1 state.1 :=
  goOn_settings ..

/-- Any number of testsets leave the settings as they were. -/
theorem after_settings (platform : Platform C W) (orders : List (Order C W))
    (state : Campaign C W × W) : SameSettings (after platform orders state).1 state.1 := by
  induction orders generalizing state with
  | nil => exact .refl state.1
  | cons order rest ih => exact (ih _).trans (step_settings platform state order)

/-! ### The held cluster -/

/-- What holds once the reconciler was asked, and is kept by every body, holds after the
testset. -/
theorem goOn_keeps {held : C → W → Prop} {free : W → Prop}
    (hsuite : suite.Keeps fun stage => held stage.cluster stage.world)
    (hgot : got.reconciler.Keeps held free got.world) (campaign : Campaign C W)
    (progress : Option Progress) (entropy : Generator) :
    let attempt := campaign.goOn suite progress entropy got
    attempt.campaign.reconciler.Keeps held free attempt.world := by
  -- Both ways to give up leave the reconciler and the world as the reconciler left them.
  have hgiveUp (fault : Fault) :
      let attempt := giveUp { campaign with reconciler := got.reconciler } suite fault got.world
      attempt.campaign.reconciler.Keeps held free attempt.world := by
    obtain ⟨-, -, hreconciler, hworld⟩ :=
      giveUp_campaign { campaign with reconciler := got.reconciler } suite fault got.world
    simp only [hreconciler, hworld]
    exact hgot
  cases houtcome : got.outcome with
  | error fault =>
    rw [goOn_of_error houtcome]
    exact hgiveUp fault
  | ok acquisition =>
    cases hheld : got.reconciler.cluster with
    | none =>
      rw [goOn_of_none houtcome hheld]
      exact hgiveUp _
    | some cluster =>
      rw [goOn_of_some houtcome hheld]
      let opening := opening { campaign with reconciler := got.reconciler } suite entropy cluster
        got.world
      have hopening : held opening.stage.cluster opening.stage.world := hgot.of_some hheld
      exact (campaign.runner suite).run_keeps hsuite _ progress hopening

end Testbed.Campaign
