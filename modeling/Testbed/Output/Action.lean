import Testbed.Output.Capture

/-!
# Trees of output actions

A list of actions prints, fails or returns a number, and encloses other lists in scopes whose
output is captured. The failure of a scope either goes on outwards or is swallowed; the number
that a scope returns goes nowhere.

## Main definitions

* `Output.Action` — one action
* `Output.Action.runAll` — the result of a list and what it printed

## Main results

* `Output.Action.value_run_scope`, `Output.Action.value_run_measure` — whether a scope ends the list
  around it does not depend on whether its output is captured
-/

namespace Testbed.Output

/-- One action. -/
inductive Action where
  | write (text : String)
  | line (text : String)
  /-- A text, and after it the number of its bytes. -/
  | counted (text : String)
  /-- A line to nowhere. -/
  | discard (text : String)
  | fail (text : String)
  | finish (value : Int)
  | replay (name text : String)
  /-- Other actions, streamed or captured. -/
  | scope (name : String) (stream : Bool) (body : List Action) (swallow : Bool)
  /-- Other actions whose captured text is measured instead of replayed. -/
  | measure (stream : Bool) (body : List Action) (swallow : Bool)
  deriving Inhabited

/-- A result that ends a list of actions. -/
abbrev Result := Except String Int

/-- What a scope means for the list around it: a failure ends the list unless it is swallowed. -/
def afterScope (result : Result) (swallow : Bool) : Option Result :=
  match result with
  | .ok _ => none
  | .error text => if swallow then none else some (.error text)

namespace Action

mutual

/-- Takes one action: the result that ends the list, if it does, and what is printed. -/
def run : Action → Printed (Option Result)
  | .write text => ⟨none, text⟩
  | .line text => ⟨none, Output.line text⟩
  | .counted text => ⟨none, text ++ toString text.utf8ByteSize⟩
  | .discard _ => ⟨none, ""⟩
  | .fail text => ⟨some (.error text), ""⟩
  | .finish value => ⟨some (.ok value), ""⟩
  | .replay name text => ⟨none, Output.replay name text⟩
  | .scope name stream body swallow =>
    let inner := withCapture name stream (runAll body)
    ⟨afterScope inner.value swallow, inner.text⟩
  | .measure stream body swallow =>
    let inner := capture stream (runAll body)
    let size := (inner.value.2.getD "").utf8ByteSize
    ⟨afterScope inner.value.1 swallow,
      inner.text ++ Output.line s!"captured {inner.value.2.isSome} {size}"⟩

/-- Takes actions in order, up to one that ends the list. A list that comes to its end returns
zero. -/
def runAll : List Action → Printed Result
  | [] => ⟨.ok 0, ""⟩
  | action :: rest =>
    let done := run action
    match done.value with
    | some result => ⟨result, done.text⟩
    | none =>
      let later := runAll rest
      ⟨later.value, done.text ++ later.text⟩

end

section leaves

variable (text : String)

@[simp] theorem run_write : run (.write text) = ⟨none, text⟩ := rfl

@[simp] theorem run_line : run (.line text) = ⟨none, text ++ "\n"⟩ := rfl

@[simp] theorem run_counted :
    run (.counted text) = ⟨none, text ++ toString text.utf8ByteSize⟩ := rfl

@[simp] theorem run_discard : run (.discard text) = ⟨none, ""⟩ := rfl

@[simp] theorem run_fail : run (.fail text) = ⟨some (.error text), ""⟩ := rfl

@[simp] theorem run_finish (value : Int) : run (.finish value) = ⟨some (.ok value), ""⟩ := rfl

@[simp] theorem run_replay (name : String) :
    run (.replay name text) = ⟨none, Output.replay name text⟩ := rfl

end leaves

@[simp] theorem value_run_scope (name : String) (stream : Bool) (body : List Action)
    (swallow : Bool) :
    (run (.scope name stream body swallow)).value = afterScope (runAll body).value swallow := by
  rw [run, withCapture_value]

@[simp] theorem value_run_measure (stream : Bool) (body : List Action) (swallow : Bool) :
    (run (.measure stream body swallow)).value = afterScope (runAll body).value swallow := by
  rw [run, capture_value_fst]

end Action

end Testbed.Output
