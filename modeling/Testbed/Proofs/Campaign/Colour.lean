import Testbed.Proofs.Campaign.Presentation
import Testbed.Proofs.Testset.Colour
import Testbed.Proofs.Testset.Transcript

/-!
# Colour is decoration

A campaign with colours prints what the campaign without them prints, in colour, and nothing else.
So whoever deletes the colour sequences from its output has the output of the other, with every
blank in its place: the columns of status lines are counted before a colour is put on.

The summary tells what the testsets before it have left. So a campaign is followed with the claim
that what it has recorded so far has no escape character.

## Main definitions

* `Campaign.Colourless` — a campaign that has recorded no escape character
* `Campaign.Command`, `Campaign.transcript` — testsets and summaries, and all that is printed

## Main results

* `Summary.text_decorates` — the summary in colour
* `Campaign.runTestset_inColour` — one testset
* `Campaign.colour_is_decoration`
-/

namespace Testbed

open Output (Plain Decorates)

variable {T C W : Type}

/-! ### Tests that are left out -/

theorem Outcome.of_mem_leaveOut {names : List String} {reason : String} {test : NotRan}
    (h : test ∈ leaveOut names reason) : test.name ∈ names ∧ test.reason = reason := by
  obtain ⟨name, hname, rfl⟩ := List.mem_map.mp h
  exact ⟨hname, rfl⟩

namespace Runner

theorem runTests_notRan (r : Runner T C W) (testset : String) (names : List String)
    (state : RunState T C W) :
    ∀ test ∈ (r.runTests testset names state).outcome.notRan,
      test.name ∈ names ∧ test.reason = testTeardownFailed := by
  induction names generalizing state with
  | nil => simp [runTests]
  | cons name rest ih =>
    have hrest (state : RunState T C W) :
        ∀ test ∈ (r.runTests testset rest state).outcome.notRan,
          test.name ∈ name :: rest ∧ test.reason = testTeardownFailed :=
      fun test hmem => (ih state test hmem).imp_left (List.mem_cons_of_mem _)
    cases hname : r.suite.find? name with
    | none =>
      rw [runTests_of_unknown hname]
      exact hrest state
    | some test =>
      cases hfailure : (r.invoke .testTeardown r.suite.testTeardown
          (r.invoke (.test test.name) test.body state).state).failure with
      | none =>
        rw [runTests_of_success hname rfl rfl hfailure]
        exact hrest _
      | some failure =>
        rw [runTests_of_failure hname rfl rfl hfailure]
        intro test hmem
        exact (Outcome.of_mem_leaveOut hmem).imp_left (List.mem_cons_of_mem _)

/-- A test that is left out was requested, and there is one of two reasons. -/
theorem run_notRan (r : Runner T C W) (names : List String) (progress : Option Progress)
    (state : RunState T C W) :
    ∀ test ∈ (r.run names progress state).outcome.notRan,
      test.name ∈ names ∧ (test.reason = setupFailed ∨ test.reason = testTeardownFailed) := by
  show ∀ test ∈ (r.runUpToTeardown _ names state).outcome.notRan, _
  cases hfailure : (r.invoke .setup r.suite.setup state).failure with
  | none =>
    rw [runUpToTeardown_of_success rfl hfailure]
    intro test hmem
    exact (r.runTests_notRan _ names _ test hmem).imp_right .inr
  | some failure =>
    rw [runUpToTeardown_of_failure rfl hfailure]
    intro test hmem
    exact (Outcome.of_mem_leaveOut hmem).imp_right .inl

end Runner

/-! ### Summaries in colour -/

namespace Summary

/-- No entry has an escape character. -/
structure Colourless (summary : Summary) : Prop where
  errors : ∀ entry ∈ summary.errors, Plain entry.1 ∧ Plain entry.2
  notRan : ∀ test ∈ summary.notRan, Plain test.name ∧ Plain test.reason

theorem Colourless.recordAll {summary : Summary} (h : summary.Colourless)
    {outcomes : List Outcome}
    (herrors : ∀ outcome ∈ outcomes, ∀ error ∈ outcome.errors,
      Plain error.name ∧ Plain error.report.text)
    (hnotRan : ∀ outcome ∈ outcomes, ∀ test ∈ outcome.notRan,
      Plain test.name ∧ Plain test.reason) : (summary.recordAll outcomes).Colourless := by
  rw [recordAll_eq]
  refine ⟨List.forall_mem_append.mpr ⟨h.errors, ?_⟩,
    List.forall_mem_append.mpr ⟨h.notRan, ?_⟩⟩
  · intro entry hmem
    obtain ⟨outcome, houtcome, hentry⟩ := List.mem_flatMap.mp hmem
    obtain ⟨error, herror, rfl⟩ := List.mem_map.mp hentry
    exact herrors outcome houtcome error herror
  · intro test hmem
    obtain ⟨outcome, houtcome, htest⟩ := List.mem_flatMap.mp hmem
    exact hnotRan outcome houtcome test htest

theorem styled_decorates {style text : String} (hstyle : Decorates "" style)
    (htext : Plain text) : Decorates (styled false style text) (styled true style text) := by
  have hreset := Output.decorates_sequence Color.isColour_reset
  have hplain : styled false style text = "" ++ "" ++ Output.line text ++ "" := by
    simp [styled]
  rw [hplain]
  exact ((hreset.append hstyle).append (.refl ((Output.plain_line text).mpr htext))).append hreset

theorem decorates_bold : Decorates "" bold :=
  Output.decorates_sequence ⟨['1'], by decide, List.all_eq_true.mp rfl⟩

/-- The summary with colours is the summary without, in colour. -/
theorem text_decorates {summary : Summary} (h : summary.Colourless) :
    Decorates (summary.text false) (summary.text true) := by
  have hsequence (color : Color) := Output.decorates_sequence color.isColour_sequence
  have hcount : Plain s!"Tests: {summary.executed} executed in {summary.testsets} testsets" := by
    simp +decide
  have herrors : Plain (String.join (summary.errors.map fun entry =>
      Output.line s!"  - {entry.1}: {entry.2}")) := by
    refine Output.plain_join (List.forall_mem_map.mpr ?_)
    intro entry hmem
    simp +decide [h.errors entry hmem]
  have hnotRan : Plain (String.join (summary.notRan.map fun test =>
      Output.line s!"  - {test.name} ({test.reason})")) := by
    refine Output.plain_join (List.forall_mem_map.mpr ?_)
    intro test hmem
    simp +decide [h.notRan test hmem]
  refine Decorates.append (Decorates.append (Decorates.append (.refl (by decide))
    (styled_decorates decorates_bold hcount)) ?_) ?_
  · split
    · exact styled_decorates (hsequence .green) (by decide)
    · exact (styled_decorates (decorates_bold.append (hsequence .red)) (by simp +decide)).append
        (.refl herrors)
  · split
    · exact .refl Output.plain_empty
    · exact (styled_decorates (hsequence .yellow) (by simp +decide)).append (.refl hnotRan)

end Summary

/-! ### Campaigns in colour -/

namespace Campaign

/-- A campaign under a configuration without escape characters in what it has recorded. -/
structure Colourless (config : Config) (campaign : Campaign C W) : Prop where
  under : campaign.under config = campaign
  launcher : campaign.launcher.Colourless
  panicSite : ∀ site ∈ campaign.panicSite, Plain site
  summary : campaign.summary.Colourless

variable {platform : Platform C W} {config : Config} {campaign : Campaign C W}
  {suite : Testset T C W}

theorem Colourless.config_eq (h : campaign.Colourless config) : campaign.config = config :=
  (congrArg Campaign.config h.under).symm

/-- A cluster is asked for as before. -/
theorem Colourless.acquire_inColour (h : campaign.Colourless config) (platform : Platform C W)
    (suite : Testset T C W) (world : W) :
    acquire platform (campaign.under config.inColour) suite world =
      acquire platform campaign suite world := by
  have hreconciler : campaign.reconciler.withVerbose config.verbose = campaign.reconciler :=
    congrArg Campaign.reconciler h.under
  show (campaign.reconciler.withVerbose config.verbose).reconcile _ _ _ _ = _
  rw [hreconciler]
  rfl

/-- A testset in colour. -/
theorem runTestset_inColour (h : campaign.Colourless config) (hcolours : config.useColors = false)
    (hsuite : suite.Colourless config) (platform : Platform C W) (progress : Option Progress)
    (entropy entropy' : Generator) (world : W) :
    Attempt.Alike .inColour config.inColour
      (campaign.runTestset platform suite progress entropy world)
      ((campaign.under config.inColour).runTestset platform suite progress entropy' world) := by
  have hconfig := h.config_eq
  subst hconfig
  have hacquired : (acquire platform campaign suite world).told.Colourless :=
    Reconciler.reconcile_colourless hsuite.requirements h.launcher platform _ _ world
  refine runTestset_alike (Runner.alike_inColour hcolours hsuite) ?_ h.panicSite ?_ ?_
  · intro testset
    exact .refl (Runner.plain_header (hsuite.name testset) progress)
  · intro fault hfault hinternal
    refine ⟨?_, hacquired.fault fault hfault hinternal⟩
    simp +decide [hsuite.typeName]
  · rw [h.acquire_inColour]
    exact .refl hacquired.text

/-- A test that is left out was let through by the filter, and there is one of three reasons. -/
theorem Upshot.notRan {progress : Option Progress} {acquired : Except Fault Acquisition}
    {outcome : Outcome} {summary : Summary}
    (h : campaign.Upshot suite progress acquired (.ok outcome) summary) :
    ∀ test ∈ outcome.notRan, test.name ∈ campaign.selected suite ∧
      test.reason ∈ [setupFailed, testTeardownFailed, clusterUnavailable] := by
  intro test hmem
  cases h with
  | unavailable _ =>
    obtain ⟨hname, hreason⟩ := Outcome.of_mem_leaveOut hmem
    exact ⟨hname, by simp [hreason]⟩
  | ran houtcome =>
    rw [← houtcome] at hmem
    obtain ⟨hname, hreason⟩ := Runner.run_notRan _ _ _ _ test hmem
    refine ⟨hname, ?_⟩
    rcases hreason with hreason | hreason <;> simp [hreason]

theorem runTestset_colourless (h : campaign.Colourless config)
    (hcolours : config.useColors = false) (hsuite : suite.Colourless config)
    (platform : Platform C W) (progress : Option Progress) (entropy : Generator) (world : W) :
    (campaign.runTestset platform suite progress entropy world).campaign.Colourless config := by
  -- That errors and places are plain is part of the likeness. The names of tests that are left out
  -- are registered, so they are plain too.
  have halike := runTestset_inColour h hcolours hsuite platform progress entropy entropy world
  have hupshot : campaign.Upshot suite progress _
      (campaign.runTestset platform suite progress entropy world).result _ :=
    campaign.runTestset_upshot platform suite progress entropy world
  have hsame : suite.SameUnder campaign.config config := by
    rw [h.config_eq]
    exact ⟨rfl, fun _ _ => rfl, rfl, rfl⟩
  have hunder := (runTestset_under platform (congrArg Config.dryRun h.config_eq).symm hsame progress
    entropy entropy world).campaign
  rw [h.under] at hunder
  have hreason : ∀ reason ∈ [setupFailed, testTeardownFailed, clusterUnavailable],
      Plain reason := by decide
  refine ⟨hunder.symm, ?_, halike.site, ?_⟩
  · rw [runTestset, (goOn_settings ..).launcher]
    exact h.launcher
  · rw [hupshot.summary_eq]
    have herrors := halike.error
    generalize (campaign.runTestset platform suite progress entropy world).result = result
      at herrors hupshot
    cases result with
    | error fault =>
      exact h.summary.recordAll (by simp [Except.toOption]) (by simp [Except.toOption])
    | ok outcome =>
      refine h.summary.recordAll (List.forall_mem_singleton.mpr (herrors outcome rfl))
        (List.forall_mem_singleton.mpr ?_)
      intro test hmem
      obtain ⟨hname, hreason'⟩ := hupshot.notRan test hmem
      obtain ⟨case, hcase, hbears⟩ := List.mem_map.mp (mem_testNames_of_mem_selected hname)
      exact ⟨hbears ▸ (hsuite.tests case hcase).1, hreason test.reason hreason'⟩

/-! ### All that is printed -/

/-- What is asked of a campaign. -/
inductive Command (C W : Type) : Type 1 where
  | run (order : Order C W)
  /-- The summary is printed as it stands. -/
  | printSummary

/-- The same is asked, from any state of the generator. -/
inductive Command.Again : Command C W → Command C W → Prop where
  | run {order order'} (h : order.Again order') : Again (.run order) (.run order')
  | printSummary : Again .printSummary .printSummary

/-- What a campaign prints for several commands. -/
def output (platform : Platform C W) : List (Command C W) → Campaign C W × W → String
  | [], _ => ""
  | .run order :: rest, state =>
    (state.1.runTestset platform order.suite order.progress order.entropy state.2).printed ++
      output platform rest (step platform state order)
  | .printSummary :: rest, state => state.1.summaryText ++ output platform rest state

/-- All that a campaign prints. -/
def transcript (platform : Platform C W) (config : Config) (launcher : Launcher C W) (seed : Seed)
    (reuseAllowed : Bool) (filter : Option String) (world : W) (commands : List (Command C W)) :
    String :=
  let started := start config launcher seed reuseAllowed filter
  started.2 ++ output platform commands (started.1, world)

/-- The testsets that are asked for tell no escape characters. -/
def Command.Colourless (config : Config) : Command C W → Prop
  | .run order => order.suite.Colourless config
  | .printSummary => True

theorem output_decorates {commands commands' : List (Command C W)}
    (hagain : List.Forall₂ Command.Again commands commands') (hcolours : config.useColors = false)
    (hcommands : ∀ command ∈ commands, command.Colourless config) {state : Campaign C W × W}
    (h : state.1.Colourless config) :
    Decorates (output platform commands state)
      (output platform commands' (state.1.under config.inColour, state.2)) := by
  induction hagain generalizing state with
  | nil => exact .refl Output.plain_empty
  | @cons command command' rest rest' hfirst _ ih =>
    obtain ⟨hcommand, hrest⟩ := List.forall_mem_cons.mp hcommands
    cases hfirst with
    | printSummary =>
      have hcolours' : state.1.config.useColors = false := by rw [h.config_eq, hcolours]
      refine Decorates.append ?_ (ih hrest h)
      show Decorates (state.1.summary.text state.1.config.useColors) (state.1.summary.text true)
      rw [hcolours']
      exact Summary.text_decorates h.summary
    | @run order order' horder =>
      obtain ⟨entropy, rfl⟩ := horder
      -- The testset leaves the coloured campaign what it leaves the plain one, under colours, and
      -- the plain one without escape characters: both are needed for the rest.
      have halike := runTestset_inColour h hcolours hcommand platform order.progress order.entropy
        entropy state.2
      have hnext := runTestset_colourless h hcolours hcommand platform order.progress order.entropy
        state.2
      refine Decorates.append halike.printed ?_
      have hstep : step platform (state.1.under config.inColour, state.2) { order with entropy } =
          ((step platform state order).1.under config.inColour, (step platform state order).2) :=
        Prod.ext halike.campaign halike.world
      rw [hstep]
      exact ih hrest hnext

/-- **Colour is decoration.** Of two campaigns that differ only in colours, on testsets and a
launcher that tell no escape characters and do not look at colours, the one prints what the other
prints, in colour: whatever the width, the testsets and the summaries that are asked for. So what
the plain campaign prints is had back by deleting the colour sequences. -/
theorem colour_is_decoration (platform : Platform C W) (hcolours : config.useColors = false)
    {launcher : Launcher C W} (hlauncher : launcher.Colourless) (seed : Seed)
    (reuseAllowed : Bool) (filter : Option String) (world : W)
    {commands commands' : List (Command C W)}
    (hagain : List.Forall₂ Command.Again commands commands')
    (hcommands : ∀ command ∈ commands, command.Colourless config) :
    let plain := transcript platform config launcher seed reuseAllowed filter world commands
    let coloured :=
      transcript platform config.inColour launcher seed reuseAllowed filter world commands'
    Decorates plain coloured ∧ Output.stripColours coloured = plain := by
  intro plain coloured
  have hwork : config.SameWork config.inColour := ⟨rfl, rfl, rfl, rfl⟩
  have hstart : (start config launcher seed reuseAllowed filter).1.Colourless config :=
    { under := (start_under ⟨rfl, rfl, rfl, rfl⟩ launcher seed reuseAllowed filter).symm
      launcher := hlauncher
      panicSite := by simp [start]
      summary := ⟨by simp [start], by simp [start]⟩ }
  have hline : Plain (start config launcher seed reuseAllowed filter).2 := by
    simp +decide [start, seed.plain_text]
  have hdecorates : Decorates plain coloured := by
    refine Decorates.append (.refl hline) ?_
    rw [start_under hwork]
    exact output_decorates hagain hcolours hcommands hstart
  exact ⟨hdecorates, hdecorates.strip_eq⟩

/-- One test passes, the other fails, and what it printed is shown. -/
def sampleSpoken : Order (Nat × Nat) Unit where
  Instance := Unit
  suite :=
    { typeName := "Sample"
      name := fun _ => "Sample"
      create := fun _ => ()
      requirements := [Reconciler.sampleRequirement 1]
      tests :=
        [⟨"a", .saying "hum" .passed⟩, ⟨"b", .saying "out" (.failed (.message "broken"))⟩]
      setup := .saying "" .passed
      teardown := .saying "" .passed
      testTeardown := .saying "" .passed }
  progress := none
  entropy := .ofSeed (.ofUInt64 0)

theorem sampleSpoken_colourless (config : Config) : sampleSpoken.suite.Colourless config := by
  have hsaying {text : String} (htext : Plain text) {verdict : Verdict}
      (hverdict : verdict = .passed ∨ verdict = .failed (.message "broken")) :
      Body.Colourless config (.saying text verdict : Body Unit (Nat × Nat) Unit) := by
    refine ⟨rfl, fun _ _ => ⟨htext, ?_, ?_, by simp [Body.saying]⟩⟩
    · rintro report hreport
      rcases hverdict with rfl | rfl
      · cases hreport
      · cases hreport
        exact ⟨by decide, by simp [Report.code?]⟩
    · rintro message hmessage
      rcases hverdict with rfl | rfl <;> cases hmessage
  have hsize : (Reconciler.sampleRequirement 1).Colourless :=
    ⟨by decide, fun _ _ => Printed.colourless_ok Output.plain_empty ()⟩
  exact
    { typeName := by decide
      name := fun _ => (by decide : Plain "Sample")
      requirements := List.forall_mem_singleton.mpr hsize
      setup := hsaying Output.plain_empty (.inl rfl)
      tests := List.forall_mem_cons.mpr ⟨⟨by decide, hsaying (by decide) (.inl rfl)⟩,
        List.forall_mem_singleton.mpr ⟨by decide, hsaying (by decide) (.inr rfl)⟩⟩
      testTeardown := hsaying Output.plain_empty (.inl rfl)
      teardown := hsaying Output.plain_empty (.inl rfl) }

/-- The status words end at one column, whether they are in colour or not. -/
theorem sampleSpoken_in_colour :
    let config : Config := { width := 30 }
    let commands : List (Command (Nat × Nat) Unit) := [.run sampleSpoken, .printSummary]
    let print (config : Config) := transcript Reconciler.samplePlatform config
      Reconciler.sampleLauncher (.ofUInt64 0) true none () commands
    config.useColors = false ∧ Launcher.Colourless Reconciler.sampleLauncher ∧
      List.Forall₂ Command.Again commands commands ∧
      (∀ command ∈ commands, command.Colourless config) ∧
      Output.stripColours (print config.inColour) = print config ∧
      print config.inColour =
        "Using seed 00000000000000000000000000000000\n" ++
          "Starting cluster to satisfy requirements: [Size]\n\n" ++ Reconciler.rule ++ "\n\n" ++
          "\nStarting testset: Sample...\n" ++
          "  Sample.a...           \x1b[32mpassed\x1b[0m\n" ++
          "  Sample.b...  \x1b[31mfailed (broken)\x1b[0m\nError: broken\n\n" ++
          "================== b() output begin =================\nout\n" ++
          "=================== b() output end ==================\n\n" ++
          "\n\x1b[0m\x1b[1mTests: 2 executed in 1 testsets\n\x1b[0m" ++
          "\x1b[0m\x1b[1m\x1b[31mErrors (1):\n\x1b[0m  - Sample.b: broken\n" := by
  intro config commands print
  have hlauncher : Launcher.Colourless Reconciler.sampleLauncher :=
    fun _ _ => Printed.colourless_ok Output.plain_empty _
  have hagain : List.Forall₂ Command.Again commands commands :=
    .cons (.run ⟨_, rfl⟩) (.cons .printSummary .nil)
  have hcommands : ∀ command ∈ commands, command.Colourless config :=
    List.forall_mem_cons.mpr
      ⟨sampleSpoken_colourless config, List.forall_mem_singleton.mpr trivial⟩
  have hcolours : config.useColors = false := rfl
  obtain ⟨-, hstrip⟩ := colour_is_decoration Reconciler.samplePlatform hcolours hlauncher
    (.ofUInt64 0) true none () hagain hcommands
  refine ⟨hcolours, hlauncher, hagain, hcommands, hstrip, ?_⟩
  decide +kernel

end Campaign

end Testbed
