import Testbed.Config
import Testbed.Output.Capture
import Testbed.Report

/-!
# Status lines

A call of a test prints one line: the test's name before the body runs, and after it a status
word that ends at the configured column, followed by the time if the call was slow enough to
tell. A call of any other phase prints only if it fails. After a failure come its summary, an
empty line and the captured output.

Columns are counted in bytes, and colours take none.

## Main definitions

* `Duration.elapsedText` — the time of a call, and whether it deserves a warning
* `Status.lead`, `Status.finish` — the two pieces of a status line
* `Status.call`, `Status.skip` — what is printed for a call, and for one that is not made

## Main results

* `Status.call_value` — reporting changes no result
-/

namespace Testbed

/-! ### Elapsed time -/

namespace Duration

/-- More than so many tenths of a second. -/
def exceedsTenths (d : Duration) (tenths : Nat) : Bool :=
  (Binary64.ofRatio false tenths 10).lt d.seconds

/-- The time in brackets, in whole seconds, to one place or to two, or nothing for a quick call;
and whether it is long enough for a warning. -/
def elapsedText (d : Duration) : String × Bool :=
  if d.exceedsTenths 100 then
    match d.seconds.ratio? with
    | some (num, den) =>
      let secs := min (roundHalfUp num den) (Power.two 64 - 1)
      ("[" ++ toString secs ++ "s]", true)
    | none => ("", true)
  else if d.exceedsTenths 50 then ("[" ++ d.seconds.fixed 1 ++ "s]", true)
  else if d.exceedsTenths 10 then ("[" ++ d.seconds.fixed 1 ++ "s]", false)
  else if d.exceedsTenths 1 then ("[" ++ d.seconds.fixed 2 ++ "s]", false)
  else ("", false)

/-- The time of a call, in the colour of a warning if it is long. -/
def coloredElapsed (d : Duration) (config : Config) : String :=
  let (time, slow) := d.elapsedText
  if slow then config.colorize time .yellow else time

end Duration

/-! ### The pieces of a line -/

/-- How much a call prints if it succeeds. -/
inductive ReportStyle where
  /-- A status line. -/
  | statusLine
  /-- Nothing. -/
  | failureOnly
  deriving DecidableEq, Repr

namespace Status

/-- What stands before the status word. -/
def lead (name : String) : String :=
  "  " ++ name ++ "... "

/-- How many bytes a status word takes together with the time. -/
def visible (word time : String) : Nat :=
  if time.isEmpty then word.utf8ByteSize else word.utf8ByteSize + 1 + time.utf8ByteSize

/-- So many blanks. -/
def blanks (count : Nat) : String :=
  String.ofList (List.replicate count ' ')

/-- The status word, after as many blanks as bring the end of the line to the configured column,
and the time. -/
def finish (config : Config) (leadSize : Nat) (word : String) (color : Color)
    (elapsed : Duration) : String :=
  let time := elapsed.elapsedText.1
  Output.line (blanks (config.width - (leadSize + visible word time)) ++
    config.colorize word color ++
    if time.isEmpty then "" else " " ++ elapsed.coloredElapsed config)

/-! ### Calls -/

/-- What a failed call prints after its body: the line, the summary, an empty line, and what was
captured. -/
def failure (config : Config) (name label : String) (style : ReportStyle) (report : Report)
    (captured : Option String) (elapsed : Duration) : String :=
  (match style with
    | .statusLine =>
      finish config (lead name).utf8ByteSize s!"failed ({report.text})" .red elapsed
    | .failureOnly => Output.line (config.colorize s!"  {name} failed ({report.text})" .red)) ++
  Output.line report.summary ++ Output.line "" ++
  (captured.map (Output.replay label)).getD ""

/-- What a successful call prints after its body. -/
def success (config : Config) (name : String) (style : ReportStyle) (elapsed : Duration) :
    String :=
  match style with
  | .statusLine => finish config (lead name).utf8ByteSize "passed" .green elapsed
  | .failureOnly => ""

/-- A call with its report. The body streams if the configuration or the caller wants it to;
`label` names it in the banners around captured output. -/
def call {α : Type} (config : Config) (name label : String) (style : ReportStyle)
    (intercept : Bool) (body : Printed (Except Report α)) (elapsed : Duration) :
    Printed (Except Report α) :=
  let run := Output.capture (config.verbose || !intercept) body
  let start := if style = .statusLine then lead name else ""
  let outcome :=
    match body.value with
    | .ok _ => success config name style elapsed
    | .error report => failure config name label style report run.value.2 elapsed
  ⟨body.value, start ++ run.text ++ outcome⟩

@[simp] theorem call_value {α : Type} (config : Config) (name label : String)
    (style : ReportStyle) (intercept : Bool) (body : Printed (Except Report α))
    (elapsed : Duration) :
    (call config name label style intercept body elapsed).value = body.value := rfl

/-- The status line of a call that is deliberately not made. -/
def skip (config : Config) (name reason : String) : String :=
  lead name ++
    finish config (lead name).utf8ByteSize s!"skipped ({reason})" .yellow Duration.zero

end Status

end Testbed
