import Testbed.Fault
import Testbed.Text.Lines

/-!
# Reports

A body fails with a report: a fault of the testbed, a text of its own, or the trace of a panic.
Context put around a report replaces its text and hides nothing else.

## Main definitions

* `Report` — what a body fails with
* `Report.text`, `Report.fault?`, `Report.code?`, `Report.help?`
* `Report.summary` — one line: what it is and the first line of its text
-/

namespace Testbed

/-- What a body fails with. -/
inductive Report where
  | fault (fault : Fault)
  /-- A text without a code. -/
  | message (text : String)
  /-- A text that can be looked up under a code. -/
  | coded (code text : String)
  /-- A panic, and where it was raised if that was recorded. -/
  | panic (message : String) (location : Option String)
  /-- A report with context around it. -/
  | wrapped (context : String) (inner : Report)
  deriving DecidableEq, Repr, Inhabited

namespace Report

/-- A report in words; of one in a context, the context. -/
def text : Report → String
  | .fault f => f.message
  | .message t => t
  | .coded _ t => t
  | .panic m none => "panicked: " ++ m
  | .panic m (some location) => "panicked: " ++ m ++ " at " ++ location
  | .wrapped context _ => context

/-- The fault at the core of a report. -/
def fault? : Report → Option Fault
  | .fault f => some f
  | .wrapped _ inner => inner.fault?
  | _ => none

/-- The code at the core of a report. -/
def code? : Report → Option String
  | .fault f => some f.code
  | .message _ => none
  | .coded code _ => some code
  | .panic .. => some "harness::panic"
  | .wrapped _ inner => inner.code?

/-- The advice at the core of a report. -/
def help? : Report → Option String
  | .fault f => f.help?
  | .wrapped _ inner => inner.help?
  | _ => none

/-- What heads a summary: the kind of fault, or else the code, or else the plain word. -/
def heading (report : Report) : String :=
  match report.fault? with
  | some f => f.kind.text
  | none => report.code?.getD "Error"

/-- A report in one line. -/
def summary (report : Report) : String :=
  report.heading ++ ": " ++ Text.firstLine report.text

end Report

end Testbed
