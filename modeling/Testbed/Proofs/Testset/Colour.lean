import Testbed.Proofs.Reconciler.Colour
import Testbed.Proofs.Testset.Alike

/-!
# Runs in colour

All that a run prints comes from somewhere: from names, from what bodies print, from what they
fail with, and from panics and their places. Where none of these has an escape character, and no
body looks at colours, the run with colours prints what the run without them prints, in colour.

## Main definitions

* `Body.Colourless`, `Testset.Colourless` — sources without escape characters, which do not look
  at colours
* `Likeness.inColour` — two runs of which the second is in colour

## Main results

* `Runner.alike_inColour` — every phase, and so the run, is alike in colour
-/

namespace Testbed

open Output (Plain Decorates)

variable {T C W : Type}

/-! ### Sources -/

/-- What a body leaves is told without an escape character. -/
structure Ending.Colourless (ending : Ending T C W) : Prop where
  printed : Plain ending.printed
  failed : ∀ report, ending.verdict = .failed report → report.Plain
  panicked : ∀ message, ending.verdict = .panicked (some message) → Plain message
  raisedAt : ∀ site ∈ ending.raisedAt, Plain site

/-- A body does not look at colours, and what it leaves is told without an escape character. -/
structure Body.Colourless (config : Config) (body : Body T C W) : Prop where
  same : body config.inColour = body config
  ending : ∀ generator stage, (body config generator stage).Colourless

/-- Nothing that a testset is made of tells an escape character. -/
structure Testset.Colourless (config : Config) (suite : Testset T C W) : Prop where
  typeName : Plain suite.typeName
  name : ∀ testset, Plain (suite.name testset)
  requirements : ∀ requirement ∈ suite.requirements, requirement.Colourless
  setup : suite.setup.Colourless config
  tests : ∀ test ∈ suite.tests, Plain test.name ∧ test.body.Colourless config
  testTeardown : suite.testTeardown.Colourless config
  teardown : suite.teardown.Colourless config

/-! ### Runs in colour -/

/-- The second text is the first in colour, and nothing else has an escape character. -/
def Likeness.inColour : Likeness where
  text := Decorates
  error error := Plain error.name ∧ Plain error.report.text
  site := Plain
  text_empty := .refl Output.plain_empty
  text_append := Decorates.append

namespace Runner

variable {r : Runner T C W}

/-- The same run, with colours. -/
def inColour (r : Runner T C W) : Runner T C W :=
  { r with config := r.config.inColour }

/-- A panic is told without an escape character if its message and its place are. -/
theorem plain_of_contain {ending : Ending T C W} (hending : ending.Colourless)
    {panicSite : Option String} (hsite : ∀ site ∈ panicSite, Plain site) {report : Report}
    (h : contain ending.verdict panicSite = .error report) : report.Plain := by
  have hpanicked := hending.panicked
  have hfailed := hending.failed
  cases hverdict : ending.verdict with
  | passed =>
    rw [hverdict] at h
    cases h
  | failed report' =>
    rw [hverdict] at h
    cases h
    exact hfailed _ hverdict
  | panicked message =>
    rw [hverdict] at h
    cases h
    have hmessage : Plain (message.getD unknownPayload) := by
      cases message with
      | none => exact (by decide : Plain unknownPayload)
      | some message => exact hpanicked message hverdict
    refine ⟨?_, ?_⟩
    · cases panicSite with
      | none => simp +decide [Report.text, hmessage]
      | some site => simp +decide [Report.text, hmessage, hsite site rfl]
    · rintro code ⟨⟩
      decide

theorem invoke_inColour (hcolours : r.config.useColors = false)
    (hname : ∀ testset, Plain (r.suite.name testset)) (phase : Phase) (hlabel : Plain phase.label)
    {body : Body T C W} (hbody : body.Colourless r.config) :
    r.InvokedAlike .inColour r.inColour phase body body := by
  have hqualified (testset : T) : Plain (r.qualified testset phase) := by
    simp +decide [qualified, hname testset, hlabel]
  refine invoke_alike (by rfl) (by rfl) (by rfl) ?_ ?_
  · intro _ _ testset
    exact Status.skip_decorates hcolours (hqualified testset) (by decide)
  · intro _ generator entry
    have hending := hbody.ending generator entry
    have hsame : body r.inColour.config = body r.config := hbody.same
    rw [hsame]
    generalize body r.config generator entry = ending at hending
    refine ⟨rfl, rfl, rfl, hending.raisedAt, ?_, ?_⟩
    · intro panicSite hsite report hreport
      exact ⟨hqualified _, (plain_of_contain hending hsite hreport).text⟩
    · intro panicSite hsite
      exact Status.call_decorates hcolours (hqualified _) hlabel phase.style r.intercept
        hending.printed (fun report hreport => plain_of_contain hending hsite hreport)
        ending.elapsed

theorem alike_inColour (hcolours : r.config.useColors = false)
    (hsuite : r.suite.Colourless r.config) : r.Alike .inColour r.inColour where
  dryRun := rfl
  name := rfl
  setup := invoke_inColour hcolours hsuite.name .setup (by decide) hsuite.setup
  tests := by
    refine List.forall₂_same.mpr ?_
    intro test hmem
    obtain ⟨hlabel, hbody⟩ := hsuite.tests test hmem
    exact ⟨rfl, invoke_inColour hcolours hsuite.name (.test test.name) hlabel hbody⟩
  testTeardown := invoke_inColour hcolours hsuite.name .testTeardown (by decide) hsuite.testTeardown
  teardown := invoke_inColour hcolours hsuite.name .teardown (by decide) hsuite.teardown

theorem plain_header {name : String} (hname : Plain name) (progress : Option Progress) :
    Plain (header name progress) := by
  cases progress with
  | none => simp +decide [header, hname]
  | some progress => simp +decide [header, hname]

end Runner

end Testbed
