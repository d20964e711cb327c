import Testbed.Proofs.Campaign.Totals
import Testbed.Proofs.Testset.Alike
import Testbed.Proofs.Text.TypeName

/-!
# What reports are named after

Whatever is reported of a testset bears the name of the testset, a point and a label: that of a
phase, or the word for a cluster that could not be had. A testset without a name of its own goes by
the short name of its type, and that is the last segment of the type's path. So no report is named
after a type argument, however the arguments are written.

## What is deliberately absent

A testset may have a name of its own, and may even change it from phase to phase. Then only the
report of a missing cluster is named after its type.

## Main definitions

* `Testset.NamedAfter` — a testset that goes by the short name of its type
* `TestError.Under` — an error that is reported under a title

## Main results

* `Runner.run_under_title` — the errors of a run
* `Campaign.runTestset_under_title` — the errors of a testset, with a cluster or without
* `Testset.named_after_last_segment`
-/

namespace Testbed

variable {T C W : Type}

/-! ### Titles and labels -/

/-- The testset goes by the short name of its type. -/
structure Testset.NamedAfter (suite : Testset T C W) (full : String) : Prop where
  typeName : suite.typeName = TypeName.short full
  name : ∀ testset, suite.name testset = TypeName.short full

/-- The labels of the phases in a run over some names. -/
def phaseLabels (names : List String) : List String :=
  "setup" :: "test_teardown" :: "teardown" :: names

/-- The error is reported under a title and one of some labels. -/
def TestError.Under (title : String) (labels : List String) (error : TestError) : Prop :=
  ∃ label ∈ labels, error.name = title ++ "." ++ label

theorem TestError.Under.mono {title : String} {labels labels' : List String} {error : TestError}
    (h : error.Under title labels) (hsub : labels ⊆ labels') : error.Under title labels' := by
  obtain ⟨label, hmem, hname⟩ := h
  exact ⟨label, hsub hmem, hname⟩

theorem phaseLabels_subset_cons (name : String) (names : List String) :
    phaseLabels names ⊆ phaseLabels (name :: names) := by
  intro label
  simp only [phaseLabels, List.mem_cons]
  tauto

/-! ### Runs -/

namespace Runner

variable {r : Runner T C W} {title : String} (htitle : ∀ testset, r.suite.name testset = title)
include htitle

theorem qualified_eq (testset : T) (phase : Phase) :
    r.qualified testset phase = title ++ "." ++ phase.label := by
  rw [qualified, htitle]

/-- What a phase reports is under the title and the label of the phase. -/
theorem invoke_under_title {phase : Phase} {labels : List String} (hphase : phase.label ∈ labels)
    (body : Body T C W) (state : RunState T C W) :
    ∀ error ∈ (r.invoke phase body state).failure.toList, error.Under title labels := by
  intro error hmem
  rw [Option.mem_toList] at hmem
  cases hdry : r.config.dryRun with
  | true =>
    rw [invoke_dry hdry] at hmem
    cases hmem
  | false =>
    rw [invoke_live hdry] at hmem
    dsimp only at hmem
    split at hmem
    · cases hmem
    · cases hmem
      exact ⟨phase.label, hphase, qualified_eq htitle _ phase⟩

theorem runTests_under_title (names : List String) (state : RunState T C W) :
    ∀ error ∈ (r.runTests title names state).outcome.errors,
      error.Under title (phaseLabels names) := by
  induction names generalizing state with
  | nil => simp [runTests]
  | cons name rest ih =>
    have hrest (state : RunState T C W) : ∀ error ∈ (r.runTests title rest state).outcome.errors,
        error.Under title (phaseLabels (name :: rest)) :=
      fun error hmem => (ih state error hmem).mono (phaseLabels_subset_cons name rest)
    cases hname : r.suite.find? name with
    | none =>
      rw [runTests_of_unknown hname]
      refine List.forall_mem_cons.mpr ⟨⟨name, by simp [phaseLabels], rfl⟩, hrest state⟩
    | some test =>
      have htest : test.name = name := by simpa using List.find?_some hname
      have hlabel : (Phase.test test.name).label ∈ phaseLabels (name :: rest) := by
        simp [phaseLabels, Phase.label, htest]
      have hrun := invoke_under_title htitle hlabel test.body state
      generalize hmade : r.invoke (.test test.name) test.body state = run at hrun
      have hafter : ∀ error ∈ (r.invoke .testTeardown r.suite.testTeardown run.state).failure.toList,
          error.Under title (phaseLabels (name :: rest)) :=
        invoke_under_title htitle (by simp [phaseLabels, Phase.label]) _ _
      cases hfailure : (r.invoke .testTeardown r.suite.testTeardown run.state).failure with
      | none =>
        rw [runTests_of_success hname hmade rfl hfailure]
        exact List.forall_mem_append.mpr ⟨hrun, hrest _⟩
      | some failure =>
        rw [hfailure] at hafter
        rw [runTests_of_failure hname hmade rfl hfailure]
        exact List.forall_mem_append.mpr ⟨hrun, hafter⟩

theorem runUpToTeardown_under_title (names : List String) (state : RunState T C W) :
    ∀ error ∈ (r.runUpToTeardown title names state).outcome.errors,
      error.Under title (phaseLabels names) := by
  have hsetup : ∀ error ∈ (r.invoke .setup r.suite.setup state).failure.toList,
      error.Under title (phaseLabels names) :=
    invoke_under_title htitle (by simp [phaseLabels, Phase.label]) _ _
  cases hfailure : (r.invoke .setup r.suite.setup state).failure with
  | none =>
    rw [runUpToTeardown_of_success rfl hfailure]
    exact runTests_under_title htitle names _
  | some failure =>
    rw [hfailure] at hsetup
    rw [runUpToTeardown_of_failure rfl hfailure]
    exact hsetup

/-- Each error of a run is under the title and the label of a phase or a requested name. -/
theorem run_under_title (names : List String) (progress : Option Progress)
    (state : RunState T C W) :
    ∀ error ∈ (r.run names progress state).outcome.errors,
      error.Under title (phaseLabels names) := by
  rw [run, htitle]
  refine List.forall_mem_append.mpr ⟨runUpToTeardown_under_title htitle names state, ?_⟩
  exact invoke_under_title htitle (by simp [phaseLabels, Phase.label]) _ _

end Runner

/-! ### Campaigns -/

/-- With a cluster or without, each error of a testset is under the short name of its type. -/
theorem Campaign.Upshot.under_title {campaign : Campaign C W} {suite : Testset T C W}
    {progress : Option Progress} {acquired : Except Fault Acquisition}
    {result : Except Fault Outcome} {summary : Summary} {title : String} {outcome : Outcome}
    (h : campaign.Upshot suite progress acquired result summary)
    (htype : suite.typeName = title) (htitle : ∀ testset, suite.name testset = title)
    (hok : result = .ok outcome) :
    ∀ error ∈ outcome.errors,
      error.Under title ("cluster" :: phaseLabels (campaign.selected suite)) := by
  cases h with
  | passedOn _ => cases hok
  | unavailable _ =>
    cases hok
    refine List.forall_mem_singleton.mpr ⟨"cluster", List.mem_cons_self, ?_⟩
    rw [htype, String.append_assoc]
    rfl
  | @ran _ opening _ houtcome =>
    cases hok
    subst houtcome
    intro error hmem
    exact (Runner.run_under_title (r := campaign.runner suite) htitle _ progress opening error
      hmem).mono (List.subset_cons_self ..)

/-- **A testset is named after the last segment of its type's path.** The full name of a type is a
path, and type arguments may follow it, which can be any text. The short name is the last segment
of the path. A testset that goes by it reports every phase under that segment, and so is every
error of a run, and every error that a campaign records of the testset, cluster or no cluster. -/
theorem Testset.named_after_last_segment (segments : List String) (hne : segments ≠ [])
    (hsegments : ∀ segment ∈ segments, TypeName.IsSegment segment) (full : String)
    (hfull : TypeName.IsFullName segments full) :
    let last := segments.getLast hne
    TypeName.short full = last ∧ ∀ suite : Testset T C W, suite.NamedAfter full →
      (∀ r : Runner T C W, r.suite = suite →
        (∀ testset phase, r.qualified testset phase = last ++ "." ++ phase.label) ∧
        ∀ names progress state, ∀ error ∈ (r.run names progress state).outcome.errors,
          error.Under last (phaseLabels names)) ∧
      ∀ (platform : Platform C W) (campaign : Campaign C W) progress entropy world outcome,
        (campaign.runTestset platform suite progress entropy world).result = .ok outcome →
          ∀ error ∈ outcome.errors,
            error.Under last ("cluster" :: phaseLabels (campaign.selected suite)) := by
  intro last
  have hshort : TypeName.short full = last := TypeName.short_of_isFullName hne hsegments hfull
  refine ⟨hshort, ?_⟩
  intro suite hnamed
  have htitle : ∀ testset, suite.name testset = last :=
    fun testset => (hnamed.name testset).trans hshort
  refine ⟨?_, ?_⟩
  · rintro r rfl
    exact ⟨Runner.qualified_eq htitle, Runner.run_under_title htitle⟩
  · intro platform campaign progress entropy world outcome hok
    exact (Campaign.runTestset_upshot platform campaign suite progress entropy world).under_title
      (hnamed.typeName.trans hshort) htitle hok

/-- A type with arguments that have brackets, colons and commas of their own. -/
def sampleFullName : String :=
  "demo::Wrapper<alloc::vec::Vec<demo::Inner>, <demo::A as demo::B>::C>"

/-- The sample under the short name of this type. -/
def Runner.sampleNamed : Runner Nat Unit Unit :=
  { sample with
    suite :=
      { sample.suite with
        typeName := TypeName.short sampleFullName
        name := fun _ => TypeName.short sampleFullName } }

/-- The errors of the sample are under the segment before the first bracket. -/
theorem Runner.sampleNamed_under_last_segment :
    (∀ segment ∈ ["demo", "Wrapper"], TypeName.IsSegment segment) ∧
      TypeName.IsFullName ["demo", "Wrapper"] sampleFullName ∧
      sampleNamed.suite.NamedAfter sampleFullName ∧
      TypeName.short sampleFullName = "Wrapper" ∧
      ((sampleNamed.run ["a", "b"] none sampleState).outcome.errors.map TestError.name =
        ["Wrapper.a", "Wrapper.test_teardown", "Wrapper.teardown"]) ∧
      ∀ error ∈ (sampleNamed.run ["a", "b"] none sampleState).outcome.errors,
        error.Under "Wrapper" (phaseLabels ["a", "b"]) := by
  have hsegments : ∀ segment ∈ ["demo", "Wrapper"], TypeName.IsSegment segment := by decide
  have hfull : TypeName.IsFullName ["demo", "Wrapper"] sampleFullName :=
    .generic "alloc::vec::Vec<demo::Inner>, <demo::A as demo::B>::C>"
  have hnamed : sampleNamed.suite.NamedAfter sampleFullName := ⟨rfl, fun _ => rfl⟩
  obtain ⟨hshort, hreports⟩ :=
    Testset.named_after_last_segment ["demo", "Wrapper"] (by simp) hsegments sampleFullName hfull
  have hrun := (hreports sampleNamed.suite hnamed).1 sampleNamed rfl
  exact ⟨hsegments, hfull, hnamed, hshort, by decide +kernel, hrun.2 ["a", "b"] none sampleState⟩

end Testbed
