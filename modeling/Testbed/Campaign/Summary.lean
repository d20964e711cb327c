import Testbed.Testset.Outcome

/-!
# Summaries

The totals over all testsets of a campaign, and how they are shown. Where colours are wanted,
each coloured line starts with a reset, the weight and the colour, and ends with a reset.

## Main definitions

* `Summary` — the totals, with `Summary.record`
* `Summary.text` — the totals as text

## Main results

* `Summary.success_record` — a summary stays a success exactly if what is recorded has passed
-/

namespace Testbed

/-- Totals over all testsets. -/
structure Summary where
  testsets : Nat := 0
  executed : Nat := 0
  /-- What went wrong: the qualified name, and the report in words. -/
  errors : List (String × String) := []
  notRan : List NotRan := []
  deriving DecidableEq, Repr, Inhabited

namespace Summary

/-- Adds the outcome of one testset. -/
def record (summary : Summary) (outcome : Outcome) : Summary :=
  { testsets := summary.testsets + 1
    executed := summary.executed + outcome.executed
    errors := summary.errors ++ outcome.errors.map fun error => (error.name, error.report.text)
    notRan := summary.notRan ++ outcome.notRan }

/-- Nothing went wrong and nothing was left out. -/
def success (summary : Summary) : Bool :=
  summary.errors.isEmpty && summary.notRan.isEmpty

theorem success_record (summary : Summary) (outcome : Outcome) :
    (summary.record outcome).success = (summary.success && outcome.passed) := by
  cases he : summary.errors <;> cases hn : summary.notRan <;> cases hoe : outcome.errors <;>
    cases hon : outcome.notRan <;> simp [record, success, Outcome.passed, he, hn, hoe, hon]

/-! ### Text -/

/-- What switches a terminal to bold text. -/
def bold : String := "\x1b[1m"

/-- A line in a style, if styles are wanted. -/
def styled (useColors : Bool) (style text : String) : String :=
  if useColors then Color.reset ++ style ++ Output.line text ++ Color.reset
  else Output.line text

/-- The totals as text. -/
def text (useColors : Bool) (summary : Summary) : String :=
  let errors :=
    if summary.errors.isEmpty then styled useColors Color.green.sequence "No errors"
    else
      styled useColors (bold ++ Color.red.sequence) s!"Errors ({summary.errors.length}):" ++
        String.join (summary.errors.map fun (name, message) =>
          Output.line s!"  - {name}: {message}")
  let notRan :=
    if summary.notRan.isEmpty then ""
    else
      styled useColors Color.yellow.sequence s!"Not ran ({summary.notRan.length}):" ++
        String.join (summary.notRan.map fun test =>
          Output.line s!"  - {test.name} ({test.reason})")
  Output.line "" ++
    styled useColors bold
      s!"Tests: {summary.executed} executed in {summary.testsets} testsets" ++
    errors ++ notRan

end Summary

end Testbed
