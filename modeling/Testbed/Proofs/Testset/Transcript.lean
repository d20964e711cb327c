import Testbed.Proofs.Testset.Accounting
import Testbed.Proofs.Testset.Alike

/-!
# The transcript of a run

What a run prints is a header and a block for each call, in order. A block is made of pieces, and
each piece says where it comes from: from a report, from a body, or from the banners around output
that was kept back. So a statement about what bodies print is a statement about pieces, and no
text that a body prints can be taken for a report.

A body whose output is kept back is heard just if it did not pass. A body that streams is heard
where it prints, after the name of the test and before the status word.

## What is deliberately absent

Times may be of any length. A slow call has its time in the status line, which is what
`Status.finish` makes of it.

## Main definitions

* `Piece` — a part of a transcript and where it comes from
* `Runner.captured`, `Runner.streamed` — the block of a call
* `Call.blocks` — the blocks of calls, in order
* `Testset.SameButPassedText` — two testsets that differ in what bodies print that pass

## Main results

* `Runner.Course.printed_run` — the transcript of a run is read off its course
* `Runner.run_known_names` — a name that no test bears adds nothing
* `Runner.transcript_of_run`
-/

namespace Testbed

variable {T C W : Type}

/-! ### Pieces -/

/-- A part of a transcript. -/
inductive Piece where
  /-- From a report. -/
  | told (text : String)
  /-- From a body. -/
  | printed (text : String)
  /-- Around what a body printed. -/
  | banner (text : String)

namespace Piece

def text : Piece → String
  | .told text => text
  | .printed text => text
  | .banner text => text

/-- The pieces one after the other. -/
def join (pieces : List Piece) : String :=
  String.join (pieces.map text)

/-- What bodies print, in order. -/
def bodies (pieces : List Piece) : List String :=
  pieces.filterMap fun
    | .printed text => some text
    | _ => none

/-- The banners, in order. -/
def banners (pieces : List Piece) : List String :=
  pieces.filterMap fun
    | .banner text => some text
    | _ => none

@[simp] theorem join_nil : join [] = "" := rfl

@[simp] theorem join_cons (piece : Piece) (pieces : List Piece) :
    join (piece :: pieces) = piece.text ++ join pieces := by
  simp [join]

@[simp] theorem join_append (pieces later : List Piece) :
    join (pieces ++ later) = join pieces ++ join later := by
  simp [join]

@[simp] theorem bodies_append (pieces later : List Piece) :
    bodies (pieces ++ later) = bodies pieces ++ bodies later :=
  List.filterMap_append ..

@[simp] theorem banners_append (pieces later : List Piece) :
    banners (pieces ++ later) = banners pieces ++ banners later :=
  List.filterMap_append ..

end Piece

/-- A text that ends with a line end. -/
def Output.lineEnded (text : String) : String :=
  if text.endsWith '\n' then text else text ++ "\n"

/-- A text between banners, and an empty line. Nothing stands for nothing. -/
def Piece.replay (label text : String) : List Piece :=
  if text = "" then []
  else
    [.banner s!"================== {label}() output begin =================\n",
      .printed (Output.lineEnded text),
      .banner s!"=================== {label}() output end ==================\n", .told "\n"]

theorem Piece.join_replay (label text : String) :
    join (replay label text) = Output.replay label text := by
  unfold replay Output.replay Output.lineEnded
  by_cases hempty : text = ""
  · simp [hempty]
  · simp only [hempty, String.isEmpty_iff, if_false]
    split <;> simp [Piece.text, Output.line, String.append_assoc]

theorem Piece.bodies_replay (label text : String) :
    bodies (replay label text) = if text = "" then [] else [Output.lineEnded text] := by
  rw [replay]
  split <;> rfl

/-! ### The block of a call -/

namespace Runner

/-- The name under which a call is reported. -/
def nameOf (r : Runner T C W) (call : Call T C W) : String :=
  r.qualified call.entry.testset call.site.phase

/-- What is told of a call before the body: a test is named. -/
def before (r : Runner T C W) (call : Call T C W) : List Piece :=
  match call.site.phase.style with
  | .statusLine => [.told (Status.lead (r.nameOf call))]
  | .failureOnly => []

/-- What is told of a call after the body: of a test how it ended, of any other call that it failed;
and of every call that failed the summary and an empty line. -/
def after (r : Runner T C W) (panicSite : Option String) (call : Call T C W) : List Piece :=
  let name := r.nameOf call
  let status (word : String) (color : Color) : Piece :=
    .told (Status.finish r.config (Status.lead name).utf8ByteSize word color call.ending.elapsed)
  match call.report? panicSite, call.site.phase.style with
  | none, .statusLine => [status "passed" .green]
  | none, .failureOnly => []
  | some report, .statusLine =>
    [status s!"failed ({report.text})" .red, .told (Output.line report.summary),
      .told (Output.line "")]
  | some report, .failureOnly =>
    [.told (Output.line (r.config.colorize s!"  {name} failed ({report.text})" .red)),
      .told (Output.line report.summary), .told (Output.line "")]

/-- The block of a call whose output is kept back: it is heard at the end if the call failed. -/
def captured (r : Runner T C W) (panicSite : Option String) (call : Call T C W) : List Piece :=
  r.before call ++ r.after panicSite call ++
    if call.Passed then [] else Piece.replay call.site.phase.label call.ending.printed

/-- The block of a call whose output streams. -/
def streamed (r : Runner T C W) (panicSite : Option String) (call : Call T C W) : List Piece :=
  r.before call ++ .printed call.ending.printed :: r.after panicSite call

/-- The blocks are what calls print in a run. -/
def Prints (r : Runner T C W) (block : Option String → Call T C W → List Piece) : Prop :=
  ∀ panicSite site body stage,
    let call := r.call site body stage
    r.callText (r.nameOf call) site.phase (call.ending.raisedAt.or panicSite) call.ending =
      Piece.join (block panicSite call)

theorem prints_captured {r : Runner T C W} (hverbose : r.config.verbose = false)
    (hintercept : r.intercept = true) : r.Prints r.captured := by
  intro panicSite site body stage call
  have hsite : call.site.phase = site.phase := rfl
  rw [callText, captured, before, after, Call.report?, hsite, Status.call, hverbose, hintercept]
  cases hverdict : call.ending.verdict <;> cases hstyle : site.phase.style <;>
    simp [contain, Call.Passed, hverdict, Output.capture, Status.success, Status.failure,
      Piece.text, Piece.join_replay, String.append_assoc]

theorem prints_streamed {r : Runner T C W}
    (hstreams : r.config.verbose = true ∨ r.intercept = false) : r.Prints r.streamed := by
  intro panicSite site body stage call
  have hsite : call.site.phase = site.phase := rfl
  have hstream : (r.config.verbose || !r.intercept) = true := by simpa using hstreams
  rw [callText, streamed, before, after, Call.report?, hsite, Status.call, hstream]
  cases hverdict : call.ending.verdict <;> cases hstyle : site.phase.style <;>
    simp [contain, Output.capture, Status.success, Status.failure, Piece.text,
      String.append_assoc]

end Runner

/-! ### Blocks -/

namespace Call

/-- The blocks of calls, in order. `panicSite` is the place on record before the first. -/
def blocks (block : Option String → Call T C W → List Piece) (panicSite : Option String) :
    List (Call T C W) → List (List Piece)
  | [] => []
  | call :: rest => block panicSite call :: blocks block (call.panicSiteAfter panicSite) rest

variable {block : Option String → Call T C W → List Piece}

theorem blocks_append (panicSite : Option String) (calls later : List (Call T C W)) :
    blocks block panicSite (calls ++ later) =
      blocks block panicSite calls ++
        blocks block (calls.foldl panicSiteAfter panicSite) later := by
  induction calls generalizing panicSite with
  | nil => rfl
  | cons call rest ih => rw [List.cons_append, blocks, ih, blocks, List.foldl_cons]; rfl

/-- What is read off each block is read off the blocks, call by call. -/
theorem filterMap_blocks {α : Type} {read : Piece → Option α} {f : Call T C W → List α}
    (hblock : ∀ panicSite call, (block panicSite call).filterMap read = f call)
    (panicSite : Option String) (calls : List (Call T C W)) :
    (blocks block panicSite calls).flatten.filterMap read = calls.flatMap f := by
  induction calls generalizing panicSite with
  | nil => rfl
  | cons call rest ih =>
    rw [blocks, List.flatten_cons, List.filterMap_append, hblock, ih, List.flatMap_cons]

/-- The texts that are heard call by call are those of the calls that failed and printed. -/
theorem heard_eq (calls : List (Call T C W)) :
    (calls.flatMap fun call =>
        if ¬ call.Passed ∧ call.ending.printed ≠ "" then [Output.lineEnded call.ending.printed]
        else []) =
      (calls.filter fun call => ¬ call.Passed ∧ call.ending.printed ≠ "").map
        (fun call => Output.lineEnded call.ending.printed) := by
  induction calls with
  | nil => rfl
  | cons call rest ih =>
    by_cases hheard : ¬ call.Passed ∧ call.ending.printed ≠ ""
    · rw [List.flatMap_cons, if_pos hheard, List.filter_cons_of_pos (by simpa using hheard), ih]
      rfl
    · rw [List.flatMap_cons, if_neg hheard, List.filter_cons_of_neg (by simpa using hheard), ih]
      rfl

end Call

namespace Runner

variable {r : Runner T C W} {names : List String} {stage last : Stage T C W}
  {history : List (Happening T C W)} {notRan : List NotRan}
  {block : Option String → Call T C W → List Piece}

theorem invoke_printed_of_call {site : Site} {phase : Phase} {body : Body T C W}
    {call : Call T C W} {state : RunState T C W} {made : Invocation T C W}
    (hdry : r.config.dryRun = false) (hprints : r.Prints block) (hphase : site.phase = phase)
    (hstage : state.stage = stage) (hcall : call = r.call site body stage)
    (hmade : r.invoke phase body state = made) :
    made.printed = Piece.join (block state.panicSite call) := by
  subst hphase hstage hcall hmade
  rw [invoke_live hdry]
  exact hprints state.panicSite site body state.stage

/-- A test and its teardown print their two blocks. -/
theorem invoke_twice_printed_of_call {place : Nat} {name : String} {test : TestCase T C W}
    {run after : Call T C W} {state : RunState T C W} {made₁ made₂ : Invocation T C W}
    (hdry : r.config.dryRun = false) (hprints : r.Prints block) (hstage : state.stage = stage)
    (hname : r.suite.locate? name = some (test, place))
    (hrun : run = r.call (.test place name) test.body stage)
    (hafter : after = r.call .testTeardown r.suite.testTeardown run.ending.stage)
    (hmade₁ : r.invoke (.test test.name) test.body state = made₁)
    (hmade₂ : r.invoke .testTeardown r.suite.testTeardown made₁.state = made₂) :
    made₁.printed ++ made₂.printed =
      Piece.join (Call.blocks block state.panicSite [run, after]).flatten := by
  have htest : test.name = name := Testset.name_of_locate? hname
  obtain ⟨-, hstage₁, hsite₁⟩ := invoke_of_call hdry (by rw [htest]; rfl) hstage hrun hmade₁
  rw [invoke_printed_of_call hdry hprints (by rw [htest]; rfl) hstage hrun hmade₁,
    invoke_printed_of_call hdry hprints rfl hstage₁ hafter hmade₂, hsite₁, ← Piece.join_append]
  simp [Call.blocks]

theorem Testing.printed_runTests (h : r.Testing names stage history notRan last)
    (hdry : r.config.dryRun = false) (hprints : r.Prints block) (testset : String)
    (state : RunState T C W) (hstage : state.stage = stage) :
    (r.runTests testset names state).printed =
      Piece.join (Call.blocks block state.panicSite (Happening.calls history)).flatten := by
  induction h generalizing state with
  | done => rfl
  | unknown hname _ ih =>
    rw [runTests_of_unknown (Testset.find?_of_none hname)]
    exact ih state hstage
  | @tested _ _ _ _ _ run after history _ _ hname hrun hafter hpassed _ ih =>
    obtain ⟨-, hfailure, hstage', hsite⟩ :=
      invoke_twice_of_call hdry hstage hname hrun hafter rfl rfl
    rw [(Call.error?_eq_none_iff ..).mpr hpassed] at hfailure
    -- The blocks of the rest start from the place that the two calls leave on record.
    have hcalls : Happening.calls (.called run :: .called after :: history) =
        [run, after] ++ Happening.calls history := rfl
    rw [runTests_of_success (Testset.find?_of_some hname) rfl rfl hfailure, hcalls,
      Call.blocks_append, List.flatten_append, Piece.join_append,
      ← invoke_twice_printed_of_call hdry hprints hstage hname hrun hafter rfl rfl]
    simp only [ih _ hstage', hsite, List.foldl_cons, List.foldl_nil]
  | stopped hname hrun hafter hfailed =>
    obtain ⟨-, hfailure, -, -⟩ := invoke_twice_of_call hdry hstage hname hrun hafter rfl rfl
    obtain ⟨failure, hsome⟩ := Call.exists_error? hfailed r.suite _
    rw [runTests_of_failure (Testset.find?_of_some hname) rfl rfl (hfailure.trans hsome)]
    exact invoke_twice_printed_of_call hdry hprints hstage hname hrun hafter rfl rfl

/-- Teardown adds the last block. -/
theorem printed_run_of_before {progress : Option Progress} {state : RunState T C W}
    {before : RunResult T C W} {calls : List (Call T C W)} {teardown : Call T C W}
    (hdry : r.config.dryRun = false) (hprints : r.Prints block)
    (hbefore : r.runUpToTeardown (r.suite.name state.stage.testset) names state = before)
    (hprinted : before.printed =
      Piece.join (Call.blocks block state.panicSite calls).flatten)
    (hlast : before.state.stage = last)
    (hsite : before.state.panicSite = calls.foldl Call.panicSiteAfter state.panicSite)
    (hteardown : teardown = r.call .teardown r.suite.teardown last) :
    (r.run names progress state).printed =
      header (r.suite.name state.stage.testset) progress ++
        Piece.join (Call.blocks block state.panicSite (calls ++ [teardown])).flatten := by
  have hmade : (r.invoke .teardown r.suite.teardown before.state).printed =
      Piece.join (block before.state.panicSite teardown) :=
    invoke_printed_of_call hdry hprints rfl hlast hteardown rfl
  rw [run, hbefore]
  simp only [hmade, hprinted, hsite, Call.blocks_append, List.flatten_append, Piece.join_append,
    String.append_assoc]
  simp [Call.blocks]

/-- The transcript of a run is a header and the blocks of its course. -/
theorem Course.printed_run {state : RunState T C W}
    (h : r.Course names state.stage history notRan last) (hdry : r.config.dryRun = false)
    (hprints : r.Prints block) (progress : Option Progress) :
    (r.run names progress state).printed =
      header (r.suite.name state.stage.testset) progress ++
        Piece.join (Call.blocks block state.panicSite (Happening.calls history)).flatten := by
  obtain ⟨made, hmade⟩ : ∃ made, r.invoke .setup r.suite.setup state = made := ⟨_, rfl⟩
  cases h with
  | @skipped setup teardown hsetup hfailed hteardown =>
    obtain ⟨hfailure, hstage, hsite⟩ := invoke_of_call hdry rfl rfl hsetup hmade
    obtain ⟨failure, hsome⟩ := Call.exists_error? hfailed r.suite state.panicSite
    have hprinted :
        made.printed = Piece.join (Call.blocks block state.panicSite [setup]).flatten := by
      rw [invoke_printed_of_call hdry hprints rfl rfl hsetup hmade]
      simp [Call.blocks]
    have hcalls : Happening.calls [.called setup, .called teardown] = [setup] ++ [teardown] := rfl
    rw [hcalls]
    exact printed_run_of_before hdry hprints
      (runUpToTeardown_of_failure hmade (hfailure.trans hsome)) hprinted hstage hsite hteardown
  | @tested setup teardown history _ _ hsetup hpassed htests hteardown =>
    obtain ⟨hfailure, hstage, hsite⟩ := invoke_of_call hdry rfl rfl hsetup hmade
    rw [(Call.error?_eq_none_iff ..).mpr hpassed] at hfailure
    obtain ⟨-, hlast, hsite'⟩ :=
      htests.outcome_runTests hdry (r.suite.name state.stage.testset) _ hstage
    rw [Happening.calls_around, ← List.cons_append]
    refine printed_run_of_before hdry hprints (runUpToTeardown_of_success hmade hfailure) ?_ hlast
      (hsite'.trans (by rw [hsite]; rfl)) hteardown
    simp only [invoke_printed_of_call hdry hprints rfl rfl hsetup hmade,
      htests.printed_runTests hdry hprints _ _ hstage, hsite, Call.blocks, List.flatten_cons,
      Piece.join_append]

/-! ### What bodies add -/

theorem bodies_before (r : Runner T C W) (call : Call T C W) :
    Piece.bodies (r.before call) = [] ∧ Piece.banners (r.before call) = [] := by
  rw [before]
  split <;> exact ⟨rfl, rfl⟩

theorem bodies_after (r : Runner T C W) (panicSite : Option String) (call : Call T C W) :
    Piece.bodies (r.after panicSite call) = [] ∧ Piece.banners (r.after panicSite call) = [] := by
  rw [after]
  split <;> exact ⟨rfl, rfl⟩

/-- A call whose output is kept back is heard just if it failed and printed. -/
theorem bodies_captured (r : Runner T C W) (panicSite : Option String) (call : Call T C W) :
    Piece.bodies (r.captured panicSite call) =
      if ¬ call.Passed ∧ call.ending.printed ≠ "" then [Output.lineEnded call.ending.printed]
      else [] := by
  rw [captured, Piece.bodies_append, Piece.bodies_append, (r.bodies_before call).1,
    (r.bodies_after panicSite call).1]
  by_cases hpassed : call.Passed
  · simp [hpassed, Piece.bodies]
  · simp [hpassed, Piece.bodies_replay]

theorem bodies_streamed (r : Runner T C W) (panicSite : Option String) (call : Call T C W) :
    Piece.bodies (r.streamed panicSite call) = [call.ending.printed] ∧
      Piece.banners (r.streamed panicSite call) = [] := by
  rw [streamed, List.append_cons]
  obtain ⟨hbefore, hbefore'⟩ := r.bodies_before call
  obtain ⟨hafter, hafter'⟩ := r.bodies_after panicSite call
  simp only [Piece.bodies_append, Piece.banners_append, hbefore, hbefore', hafter, hafter']
  exact ⟨rfl, rfl⟩

end Runner

/-! ### Names that no test bears -/

namespace Runner

theorem runTests_known_names (r : Runner T C W) (testset : String) (names : List String)
    (state : RunState T C W) :
    let all := r.runTests testset names state
    let known := r.runTests testset (names.filter fun name => (r.suite.find? name).isSome) state
    all.printed = known.printed ∧ all.state = known.state := by
  induction names generalizing state with
  | nil => exact ⟨rfl, rfl⟩
  | cons name rest ih =>
    cases hname : r.suite.find? name with
    | none =>
      rw [List.filter_cons_of_neg (by simp [hname]), runTests_of_unknown hname]
      exact ih state
    | some test =>
      rw [List.filter_cons_of_pos (by simp [hname])]
      cases hfailure : (r.invoke .testTeardown r.suite.testTeardown
          (r.invoke (.test test.name) test.body state).state).failure with
      | none =>
        rw [runTests_of_success hname rfl rfl hfailure, runTests_of_success hname rfl rfl hfailure]
        obtain ⟨hprinted, hlast⟩ := ih (r.invoke .testTeardown r.suite.testTeardown
          (r.invoke (.test test.name) test.body state).state).state
        exact ⟨congrArg (fun text => _ ++ text) hprinted, hlast⟩
      | some failure =>
        rw [runTests_of_failure hname rfl rfl hfailure, runTests_of_failure hname rfl rfl hfailure]
        exact ⟨rfl, rfl⟩

/-- A name that no test bears adds nothing to what is printed. -/
theorem run_known_names (r : Runner T C W) (names : List String) (progress : Option Progress)
    (state : RunState T C W) :
    (r.run names progress state).printed =
      (r.run (names.filter fun name => (r.suite.find? name).isSome) progress state).printed := by
  have hbefore (testset : String) :
      let all := r.runUpToTeardown testset names state
      let known := r.runUpToTeardown testset
        (names.filter fun name => (r.suite.find? name).isSome) state
      all.printed = known.printed ∧ all.state = known.state := by
    cases hfailure : (r.invoke .setup r.suite.setup state).failure with
    | none =>
      rw [runUpToTeardown_of_success rfl hfailure, runUpToTeardown_of_success rfl hfailure]
      obtain ⟨hprinted, hlast⟩ := r.runTests_known_names testset names
        (r.invoke .setup r.suite.setup state).state
      exact ⟨congrArg (fun text => _ ++ text) hprinted, hlast⟩
    | some failure =>
      rw [runUpToTeardown_of_failure rfl hfailure, runUpToTeardown_of_failure rfl hfailure]
      exact ⟨rfl, rfl⟩
  obtain ⟨hprinted, hlast⟩ := hbefore (r.suite.name state.stage.testset)
  simp only [run, hprinted, hlast]

end Runner

/-! ### Text of bodies that pass -/

/-- The two endings differ at most in what was printed, if they passed. The times may differ if the
same is told of them, and the generators in any case. -/
structure Ending.SameButPassedText (ending ending' : Ending T C W) : Prop where
  verdict : ending'.verdict = ending.verdict
  stage : ending'.stage = ending.stage
  raisedAt : ending'.raisedAt = ending.raisedAt
  time : ending'.elapsed.elapsedText = ending.elapsed.elapsedText
  printed : ending.verdict ≠ .passed → ending'.printed = ending.printed

/-- However they are called, the two bodies differ at most in what they print if they pass. -/
def Body.SameButPassedText (config : Config) (body body' : Body T C W) : Prop :=
  ∀ generator stage,
    (body config generator stage).SameButPassedText (body' config generator stage)

/-- The two testsets differ at most in what bodies print that pass. -/
structure Testset.SameButPassedText (config : Config) (suite suite' : Testset T C W) : Prop where
  name : suite'.name = suite.name
  setup : Body.SameButPassedText config suite.setup suite'.setup
  tests : List.Forall₂
    (fun test test' => test.name = test'.name ∧ Body.SameButPassedText config test.body test'.body)
    suite.tests suite'.tests
  testTeardown : Body.SameButPassedText config suite.testTeardown suite'.testTeardown
  teardown : Body.SameButPassedText config suite.teardown suite'.teardown

theorem Status.finish_of_time (config : Config) {elapsed elapsed' : Duration}
    (h : elapsed'.elapsedText = elapsed.elapsedText) (leadSize : Nat) (word : String)
    (color : Color) :
    finish config leadSize word color elapsed' = finish config leadSize word color elapsed := by
  rw [finish, finish, Duration.coloredElapsed, Duration.coloredElapsed, h]

/-- The texts are the same. -/
def Likeness.sameText : Likeness where
  text := Eq
  error _ := True
  site _ := True
  text_empty := rfl
  text_append := by
    rintro _ _ _ _ rfl rfl
    rfl

namespace Runner

/-- The same run, of another testset. -/
def withSuite (r : Runner T C W) (suite : Testset T C W) : Runner T C W :=
  { r with suite }

theorem callText_of_same {r : Runner T C W} (hverbose : r.config.verbose = false)
    (hintercept : r.intercept = true) {ending ending' : Ending T C W}
    (h : ending.SameButPassedText ending') (suite : Testset T C W) (name : String) (phase : Phase)
    (panicSite : Option String) :
    (r.withSuite suite).callText name phase panicSite ending' =
      r.callText name phase panicSite ending := by
  have hfinish := Status.finish_of_time r.config h.time
  have hconfig : (r.withSuite suite).config = r.config := rfl
  have hstream : (r.withSuite suite).intercept = true := hintercept
  rw [callText, callText, Status.call, Status.call, hconfig, hstream, hintercept, hverbose,
    h.verdict]
  by_cases hpassed : ending.verdict = .passed
  · cases phase.style <;> simp [hpassed, contain, Output.capture, Status.success, hfinish]
  · rw [h.printed hpassed]
    cases hvalue : contain ending.verdict panicSite <;> cases phase.style <;>
      simp [Status.success, Status.failure, hfinish]

theorem invoke_of_same {r : Runner T C W} (hdry : r.config.dryRun = false)
    (hverbose : r.config.verbose = false) (hintercept : r.intercept = true) {suite : Testset T C W}
    (hname : suite.name = r.suite.name) (phase : Phase) {body body' : Body T C W}
    (h : Body.SameButPassedText r.config body body') :
    r.InvokedAlike .sameText (r.withSuite suite) phase body body' := by
  refine invoke_alike (by rfl) (by rfl) hname ?_ ?_
  · intro hdry'
    rw [hdry] at hdry'
    cases hdry'
  · intro _ generator entry
    have hending := h generator entry
    exact
      { verdict := hending.verdict
        stage := hending.stage
        raisedAt := hending.raisedAt
        site := fun _ _ => trivial
        error := fun _ _ _ _ => trivial
        printed := fun panicSite _ =>
          (callText_of_same hverbose hintercept hending suite _ phase panicSite).symm }

/-- What bodies print that pass is not heard if output is kept back. -/
theorem run_of_same {r : Runner T C W} (hdry : r.config.dryRun = false)
    (hverbose : r.config.verbose = false) (hintercept : r.intercept = true) {suite : Testset T C W}
    (h : r.suite.SameButPassedText r.config suite) (names : List String)
    (progress : Option Progress) (state : RunState T C W) :
    ((r.withSuite suite).run names progress state).printed =
      (r.run names progress state).printed := by
  have hinvoke (phase : Phase) {body body' : Body T C W}
      (hbody : Body.SameButPassedText r.config body body') :=
    invoke_of_same hdry hverbose hintercept h.name phase hbody
  have halike : r.Alike .sameText (r.withSuite suite) :=
    { dryRun := rfl
      name := h.name
      setup := hinvoke .setup h.setup
      tests := h.tests.imp fun test _ htest => ⟨htest.1, hinvoke (.test test.name) htest.2⟩
      testTeardown := hinvoke .testTeardown h.testTeardown
      teardown := hinvoke .teardown h.teardown }
  exact (run_alike halike ⟨rfl, rfl, fun _ _ => trivial⟩ rfl fun _ _ _ => trivial).printed.symm

/-- **The transcript.** A run prints a header and a block for each call, in order, and nothing for a
name that no test bears. If output is kept back, what is heard of bodies is what was printed by the
calls that failed, each text once and with a line end; and what bodies print that pass may as well
be something else. If output streams, what is heard is what every call printed, in order, and there
are no banners. -/
theorem transcript_of_run (r : Runner T C W) (hdry : r.config.dryRun = false)
    (names : List String) (progress : Option Progress) (state : RunState T C W) :
    let calls := r.calls names progress state
    let printed := (r.run names progress state).printed
    let opening := header (r.suite.name state.stage.testset) progress
    (r.config.verbose = false → r.intercept = true →
        let pieces := (Call.blocks r.captured state.panicSite calls).flatten
        printed = opening ++ Piece.join pieces ∧
          Piece.bodies pieces =
            (calls.filter fun call => ¬ call.Passed ∧ call.ending.printed ≠ "").map
              (fun call => Output.lineEnded call.ending.printed) ∧
          ∀ suite, r.suite.SameButPassedText r.config suite →
            ((r.withSuite suite).run names progress state).printed = printed) ∧
      (r.config.verbose = true ∨ r.intercept = false →
        let pieces := (Call.blocks r.streamed state.panicSite calls).flatten
        printed = opening ++ Piece.join pieces ∧
          Piece.bodies pieces = calls.map (fun call => call.ending.printed) ∧
          Piece.banners pieces = []) ∧
      printed =
        (r.run (names.filter fun name => (r.suite.find? name).isSome) progress state).printed := by
  intro calls printed opening
  obtain ⟨history, notRan, last, hcourse⟩ := r.exists_course names state.stage
  have hcalls : calls = Happening.calls history := hcourse.calls_run hdry progress
  refine ⟨?_, ?_, r.run_known_names names progress state⟩
  · intro hverbose hintercept pieces
    refine ⟨?_, ?_, fun suite h => run_of_same hdry hverbose hintercept h names progress state⟩
    · show printed = opening ++ Piece.join (Call.blocks _ _ calls).flatten
      rw [hcalls]
      exact hcourse.printed_run hdry (prints_captured hverbose hintercept) progress
    · exact (Call.filterMap_blocks r.bodies_captured state.panicSite calls).trans
        (Call.heard_eq calls)
  · intro hstreams pieces
    refine ⟨?_, ?_, ?_⟩
    · show printed = opening ++ Piece.join (Call.blocks _ _ calls).flatten
      rw [hcalls]
      exact hcourse.printed_run hdry (prints_streamed hstreams) progress
    · exact (Call.filterMap_blocks (fun site call => (r.bodies_streamed site call).1)
        state.panicSite calls).trans List.map_eq_flatMap.symm
    · exact (Call.filterMap_blocks (fun site call => (r.bodies_streamed site call).2)
        state.panicSite calls).trans (List.flatMap_eq_nil_iff.mpr fun _ _ => rfl)

end Runner

/-- A body that prints, and ends. -/
def Body.saying (text : String) (verdict : Verdict) : Body T C W :=
  fun _ generator stage =>
    { verdict
      stage
      generator
      printed := text
      elapsed := .zero
      raisedAt := none }

namespace Runner

/-- One test passes and the other fails, and teardown panics. Setup and the first test print the
text that is given. -/
def sampleSpoken (intercept : Bool) (text : String) : Runner Unit Unit Unit where
  config := .plain
  suite :=
    { typeName := "Sample"
      name := fun _ => "Sample"
      create := fun _ => ()
      requirements := []
      tests :=
        [⟨"a", .saying text .passed⟩, ⟨"b", .saying "out" (.failed (.message "broken"))⟩]
      setup := .saying text .passed
      teardown := .saying "gone\n" (.panicked (some "late"))
      testTeardown := .saying "" .passed }
  chain := .ofSeed (.ofUInt64 0)
  intercept

theorem sampleSpoken_same (text text' : String) :
    (sampleSpoken true text).suite.SameButPassedText .plain (sampleSpoken true text').suite := by
  have refl (body : Body Unit Unit Unit) : Body.SameButPassedText .plain body body :=
    fun _ _ => ⟨rfl, rfl, rfl, rfl, fun _ => rfl⟩
  have saying : Body.SameButPassedText .plain (.saying text .passed : Body Unit Unit Unit)
      (.saying text' .passed) :=
    fun _ _ => ⟨rfl, rfl, rfl, rfl, fun hfailed => absurd rfl hfailed⟩
  exact ⟨rfl, saying, .cons ⟨rfl, saying⟩ (.cons ⟨rfl, refl _⟩ .nil), refl _, refl _⟩

/-- Kept back, the text of the first test is not heard, and no name stands for `x`. -/
theorem sampleSpoken_transcript :
    let state : RunState Unit Unit Unit := ⟨⟨(), (), ()⟩, .ofSeed (.ofUInt64 0), none⟩
    let names := ["a", "x", "b"]
    let kept := (sampleSpoken true "hum").run names none state
    let streamed := (sampleSpoken false "hum").run names none state
    kept.printed =
        "\nStarting testset: Sample...\n  Sample.a... passed\n  Sample.b... failed (broken)\n" ++
          "Error: broken\n\n================== b() output begin =================\nout\n" ++
          "=================== b() output end ==================\n\n" ++
          "  Sample.teardown failed (panicked: late)\nharness::panic: panicked: late\n\n" ++
          "================== teardown() output begin =================\ngone\n" ++
          "=================== teardown() output end ==================\n\n" ∧
      ((sampleSpoken true "").run names none state).printed = kept.printed ∧
      streamed.printed =
        "\nStarting testset: Sample...\nhum  Sample.a... humpassed\n" ++
          "  Sample.b... outfailed (broken)\nError: broken\n\ngone\n" ++
          "  Sample.teardown failed (panicked: late)\nharness::panic: panicked: late\n\n" := by
  intro state names kept streamed
  obtain ⟨hkept, -, -⟩ := (sampleSpoken true "hum").transcript_of_run rfl names none state
  obtain ⟨hpieces, -, hsame⟩ := hkept rfl rfl
  obtain ⟨-, hstreamed, -⟩ := (sampleSpoken false "hum").transcript_of_run rfl names none state
  obtain ⟨hpieces', -, -⟩ := hstreamed (.inr rfl)
  refine ⟨hpieces.trans ?_, hsame _ (sampleSpoken_same "hum" ""), hpieces'.trans ?_⟩
  · decide +kernel
  · decide +kernel

end Runner

end Testbed
