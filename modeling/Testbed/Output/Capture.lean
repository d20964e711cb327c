/-!
# Captured output

A body prints by giving its text along with its value, so it can add to a sink and do nothing
else to it. Its output is captured unless it is to stream: then nothing of it is seen if the
body succeeds, and all of it, between two banners, if it fails.

## Main definitions

* `Printed` — a value and the text printed on the way to it
* `Output.replay` — captured text between banners
* `Output.capture`, `Output.withCapture` — a body whose text is kept back

## Main results

* `Output.withCapture_value` — capturing changes no result
* `Output.withCapture_text_of_ok`, `Output.withCapture_text_of_error` — what is seen of a body
-/

namespace Testbed

/-- A value and the text printed on the way to it. -/
structure Printed (α : Type) where
  value : α
  text : String

namespace Output

/-- A text with its line end. -/
def line (text : String) : String :=
  text ++ "\n"

/-- A captured text between banners that carry its name, with a line end before the last banner
and an empty line after it. Nothing stands for nothing. -/
def replay (name captured : String) : String :=
  if captured.isEmpty then ""
  else
    let lineEnd := if captured.endsWith '\n' then "" else "\n"
    line (s!"================== {name}() output begin =================\n" ++ captured ++ lineEnd ++
      s!"=================== {name}() output end ==================\n")

variable {ε α : Type}

/-- A body with its output streamed or captured: its result, the captured text if the body
failed, and what it printed past the capture. -/
def capture (stream : Bool) (body : Printed (Except ε α)) :
    Printed (Except ε α × Option String) :=
  if stream then ⟨(body.value, none), body.text⟩
  else
    match body.value with
    | .ok _ => ⟨(body.value, none), ""⟩
    | .error _ => ⟨(body.value, some body.text), ""⟩

/-- A body with its output streamed, or captured and replayed if it fails. -/
def withCapture (name : String) (stream : Bool) (body : Printed (Except ε α)) :
    Printed (Except ε α) :=
  let run := capture stream body
  ⟨run.value.1, run.text ++ (run.value.2.map (replay name)).getD ""⟩

@[simp] theorem capture_value_fst (stream : Bool) (body : Printed (Except ε α)) :
    (capture stream body).value.1 = body.value := by
  unfold capture
  split
  · rfl
  · split <;> rfl

@[simp] theorem withCapture_value (name : String) (stream : Bool) (body : Printed (Except ε α)) :
    (withCapture name stream body).value = body.value := by
  simp [withCapture]

theorem withCapture_text_of_stream (name : String) (body : Printed (Except ε α)) :
    (withCapture name true body).text = body.text := by
  simp [withCapture, capture]

theorem withCapture_text_of_ok {name : String} {body : Printed (Except ε α)} {value : α}
    (h : body.value = .ok value) : (withCapture name false body).text = "" := by
  simp [withCapture, capture, h]

theorem withCapture_text_of_error {name : String} {body : Printed (Except ε α)} {error : ε}
    (h : body.value = .error error) :
    (withCapture name false body).text = replay name body.text := by
  simp [withCapture, capture, h]

end Output

end Testbed
