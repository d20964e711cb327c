import Testbed.Proofs.Campaign.Totals
import Testbed.Proofs.Testset.Alike

/-!
# Two campaigns side by side

Two campaigns under different configurations are alike as long as the configurations differ only in
how things are presented. The reconciler is then the same but for `verbose`, which it reads only to
choose where the output of mutations goes. So what it returns, and what it does to clusters and the
world, is the same; and if the run of a testset on one cluster is alike in both, so is the testset.

## Main definitions

* `Reconciler.withVerbose`, `Campaign.under` — the same, presented in another way
* `Campaign.Attempt.Alike` — two testsets that come to the same

## Main results

* `Reconciler.reconcile_withVerbose` — the same is returned and done
* `Campaign.runTestset_alike` — testsets are alike if their runs are
-/

namespace Testbed

variable {T C W : Type}

/-! ### Reconcilers -/

namespace Reconciler

/-- The same reconciler, with the output of mutations shown or not. -/
def withVerbose (verbose : Bool) (r : Reconciler C) : Reconciler C :=
  { r with verbose }

section

variable (verbose : Bool) (platform : Platform C W) (r : Reconciler C)
  (requirements : Requirements C W) (world : W)

theorem retire_withVerbose :
    (r.withVerbose verbose).retire platform world =
      (r.retire platform world).map (withVerbose verbose) id := by
  rcases r with ⟨_ | cluster, _⟩ <;> rfl

/-- The next generation is started in the same way, and the same is printed. -/
theorem replace_withVerbose :
    let got := r.replace platform requirements world
    (r.withVerbose verbose).replace platform requirements world =
      { got with reconciler := got.reconciler.withVerbose verbose } := by
  simp only [replace, retire_withVerbose, Prod.map_fst, Prod.map_snd, id_eq]
  have hbase (r : Reconciler C) : (r.withVerbose verbose).launchBase = r.launchBase := rfl
  rw [hbase]
  split
  · rfl
  · split <;> rfl

theorem createNext_withVerbose :
    let got := r.createNext platform requirements world
    (r.withVerbose verbose).createNext platform requirements world =
      { got with reconciler := got.reconciler.withVerbose verbose } := by
  simp only [createNext, replace_withVerbose]
  split <;> rfl

theorem tryReuse_withVerbose :
    let kept := r.tryReuse requirements world
    let kept' := (r.withVerbose verbose).tryReuse requirements world
    kept'.outcome = kept.outcome ∧ kept'.reconciler = kept.reconciler.withVerbose verbose ∧
      kept'.world = kept.world := by
  rcases r with ⟨_ | cluster, _⟩
  · exact ⟨rfl, rfl, rfl⟩
  · simp only [tryReuse, withVerbose]
    split
    · exact ⟨rfl, rfl, rfl⟩
    · split <;> exact ⟨rfl, rfl, rfl⟩

/-- What comes of a reconciliation does not depend on where the output of mutations goes. -/
theorem reconcile_withVerbose (reuseAllowed : Bool) :
    let got := r.reconcile platform requirements reuseAllowed world
    let got' := (r.withVerbose verbose).reconcile platform requirements reuseAllowed world
    got'.outcome = got.outcome ∧ got'.reconciler = got.reconciler.withVerbose verbose ∧
      got'.world = got.world := by
  cases reuseAllowed with
  | false =>
    have hnext : (r.withVerbose verbose).reconcile platform requirements false world = _ :=
      createNext_withVerbose verbose platform r requirements world
    rw [hnext]
    exact ⟨rfl, rfl, rfl⟩
  | true =>
    have hkept := tryReuse_withVerbose verbose r requirements world
    rw [reconcile_of_tryReuse rfl, reconcile_of_tryReuse rfl]
    generalize r.tryReuse requirements world = kept at hkept
    generalize (r.withVerbose verbose).tryReuse requirements world = kept' at hkept
    rcases kept' with ⟨outcome, _, world', printed'⟩
    obtain ⟨rfl, rfl, rfl⟩ := hkept
    cases kept.outcome with
    | unavailable =>
      dsimp only
      rw [createNext_withVerbose]
      exact ⟨rfl, rfl, rfl⟩
    | _ => exact ⟨rfl, rfl, rfl⟩

end

end Reconciler

/-! ### Campaigns -/

namespace Campaign

/-- The same campaign, presented as another configuration asks for. -/
def under (config : Config) (campaign : Campaign C W) : Campaign C W :=
  { campaign with config, reconciler := campaign.reconciler.withVerbose config.verbose }

/-- Both testsets come to the same. -/
structure Attempt.Alike (L : Likeness) (config : Config) (attempt attempt' : Attempt C W) :
    Prop where
  result : attempt'.result = attempt.result
  error : ∀ outcome, attempt.result = .ok outcome → ∀ error ∈ outcome.errors, L.error error
  campaign : attempt'.campaign = attempt.campaign.under config
  site : ∀ site ∈ attempt.campaign.panicSite, L.site site
  world : attempt'.world = attempt.world
  printed : L.text attempt.printed attempt'.printed

variable {L : Likeness} {config : Config} {platform : Platform C W} {campaign : Campaign C W}
  {suite : Testset T C W} {progress : Option Progress}

theorem runOn_alike
    (hrunner : (campaign.runner suite).Alike L ((campaign.under config).runner suite))
    (hheader : ∀ testset, L.text (Runner.header (suite.name testset) progress)
      (Runner.header (suite.name testset) progress))
    (hsite : ∀ site ∈ campaign.panicSite, L.site site) (entropy entropy' : Generator)
    (cluster : C) (world : W) :
    Attempt.Alike L config (campaign.runOn suite progress entropy cluster world)
      ((campaign.under config).runOn suite progress entropy' cluster world) := by
  have hunknown : ∀ testset, ∀ name ∈ campaign.selected suite, suite.find? name = none →
      L.error ⟨testset ++ "." ++ name, .unknownTest testset name⟩ := by
    intro testset name hmem hnone
    have hsome := (suite.find?_isSome_iff name).mpr (mem_testNames_of_mem_selected hmem)
    rw [hnone] at hsome
    cases hsome
  have hopening : (campaign.opening suite entropy cluster world).Alike L
      ((campaign.under config).opening suite entropy' cluster world) :=
    ⟨rfl, rfl, hsite⟩
  have hrun : RunResult.Alike L
      ((campaign.runner suite).run (campaign.selected suite) progress _)
      (((campaign.under config).runner suite).run (campaign.selected suite) progress _) :=
    Runner.run_alike hrunner hopening (hheader _) (hunknown _)
  have hselected : (campaign.under config).selected suite = campaign.selected suite := rfl
  rw [runOn, runOn, hselected]
  generalize (campaign.runner suite).run _ _ _ = run at hrun
  generalize ((campaign.under config).runner suite).run _ _ _ = run' at hrun
  refine ⟨congrArg Except.ok hrun.outcome, ?_, ?_, hrun.state.site, ?_, hrun.printed⟩
  · rintro outcome ⟨⟩
    exact hrun.error
  · simp only [hrun.outcome, hrun.state.stage, hrun.state.panicSite]
    rfl
  · simp only [hrun.state.stage]

theorem giveUp_alike {fault : Fault} (hsite : ∀ site ∈ campaign.panicSite, L.site site)
    (herror : fault.isInternal = false →
      L.error ⟨suite.typeName ++ ".cluster", .raised (.fault fault)⟩) (world : W) :
    Attempt.Alike L config (campaign.giveUp suite fault world)
      ((campaign.under config).giveUp suite fault world) := by
  rw [giveUp, giveUp]
  cases hinternal : fault.isInternal with
  | true => exact ⟨rfl, by simp, rfl, hsite, rfl, L.text_empty⟩
  | false =>
    refine ⟨rfl, ?_, rfl, hsite, rfl, L.text_empty⟩
    rintro outcome ⟨⟩
    simpa [unavailable] using herror hinternal

/-- Asking for a cluster comes to the same. -/
theorem acquire_under (config : Config) (platform : Platform C W) (campaign : Campaign C W)
    (suite : Testset T C W) (world : W) :
    let got := acquire platform campaign suite world
    let got' := acquire platform (campaign.under config) suite world
    got'.outcome = got.outcome ∧ got'.reconciler = got.reconciler.withVerbose config.verbose ∧
      got'.world = got.world :=
  campaign.reconciler.reconcile_withVerbose config.verbose platform (campaign.asks suite) world
    campaign.reuseAllowed

/-- What is printed before a testset is put before it in both. -/
theorem Attempt.Alike.after {attempt attempt' : Attempt C W} {before before' : String}
    (h : attempt.Alike L config attempt') (hbefore : L.text before before') :
    Attempt.Alike L config { attempt with printed := before ++ attempt.printed }
      { attempt' with printed := before' ++ attempt'.printed } :=
  { h with printed := L.text_append hbefore h.printed }

/-- Testsets are alike if asking for a cluster prints alike, and a run on a cluster is alike. -/
theorem runTestset_alike {world : W} {entropy entropy' : Generator}
    (hrunner : (campaign.runner suite).Alike L ((campaign.under config).runner suite))
    (hheader : ∀ testset, L.text (Runner.header (suite.name testset) progress)
      (Runner.header (suite.name testset) progress))
    (hsite : ∀ site ∈ campaign.panicSite, L.site site)
    (herror : ∀ fault, (acquire platform campaign suite world).outcome = .error fault →
      fault.isInternal = false →
        L.error ⟨suite.typeName ++ ".cluster", .raised (.fault fault)⟩)
    (hprinted : L.text (acquire platform campaign suite world).printed
      (acquire platform (campaign.under config) suite world).printed) :
    Attempt.Alike L config (campaign.runTestset platform suite progress entropy world)
      ((campaign.under config).runTestset platform suite progress entropy' world) := by
  obtain ⟨houtcome', hreconciler, hworld⟩ := acquire_under config platform campaign suite world
  let acquired : Campaign C W :=
    { campaign with reconciler := (acquire platform campaign suite world).reconciler }
  have hsite' : ∀ site ∈ acquired.panicSite, L.site site := hsite
  have hrunner' : (acquired.runner suite).Alike L ((acquired.under config).runner suite) := hrunner
  rw [runTestset, runTestset]
  cases houtcome : (acquire platform campaign suite world).outcome with
  | error fault =>
    rw [goOn_of_error houtcome, goOn_of_error (houtcome'.trans houtcome), hreconciler, hworld]
    have halike (world : W) : Attempt.Alike L config (acquired.giveUp suite fault world)
        ((acquired.under config).giveUp suite fault world) :=
      giveUp_alike hsite' (herror fault houtcome) world
    exact (halike _).after hprinted
  | ok acquisition =>
    obtain ⟨cluster, hheld, -, -⟩ := Reconciler.reconcile_ok houtcome
    have hheld' : (acquire platform (campaign.under config) suite world).reconciler.cluster =
        some cluster := by
      rw [hreconciler]
      exact hheld
    rw [goOn_of_some houtcome hheld, goOn_of_some (houtcome'.trans houtcome) hheld', hreconciler,
      hworld]
    have halike := runOn_alike hrunner' hheader hsite' entropy entropy' cluster
    exact (halike _).after hprinted

end Campaign

end Testbed
