import Testbed.Proofs.Output.Colour

/-!
# Status lines that reach their column

A status line is written in two pieces, one before the body runs and one after it, and the second
is told only how many bytes the first has. What is seen of them together reaches the configured
column: it is as wide as the column, or as wide as it has to be if that is more. Blanks before the
status word make up for what is missing.

A name or a report may be any text, with line ends and with escape characters of its own. So the
end of a line is not looked for in what was written, and neither are its colours: the line is given
in parts, and colours are put between them.

## Main definitions

* `Status.Reaches` — a line that reaches a column
* `Status.Aligned` — a text in which such a line is seen

## Main results

* `Status.reaches_of_blanks` — as many blanks as are missing make a line reach its column
* `Status.finish_aligned` — the two pieces of a status line, put together
* `Status.lines_reach_width`
-/

namespace Testbed

open Output (Painted)

namespace Status

/-! ### Blanks -/

@[simp] theorem utf8ByteSize_blanks (count : Nat) : (blanks count).utf8ByteSize = count := by
  induction count with
  | zero => rfl
  | succ count ih =>
    have hblank : ' '.utf8Size = 1 := by decide
    rw [blanks] at ih ⊢
    rw [List.replicate_succ, String.ofList_cons, String.utf8ByteSize_append,
      String.utf8ByteSize_singleton, hblank, ih, Nat.add_comm]

theorem utf8ByteSize_told (word time : String) :
    (told word time).utf8ByteSize = visible word time := by
  have hblank : " ".utf8ByteSize = 1 := by decide
  rw [told, visible]
  split <;> simp_all

/-- A line that reaches a column: nothing but blanks is put before what it tells, as many as are
missing. -/
structure Reaches (width : Nat) (lead told line : String) : Prop where
  blanks : ∃ count, line = lead ++ Status.blanks count ++ told
  size : line.utf8ByteSize = max width (lead ++ told).utf8ByteSize
  /-- A line that is wide enough is left as it is. -/
  natural : width ≤ (lead ++ told).utf8ByteSize → line = lead ++ told

theorem reaches_of_blanks (width : Nat) (lead told : String) :
    Reaches width lead told
      (lead ++ blanks (width - (lead.utf8ByteSize + told.utf8ByteSize)) ++ told) := by
  have hnatural : (lead ++ told).utf8ByteSize = lead.utf8ByteSize + told.utf8ByteSize :=
    String.utf8ByteSize_append
  refine ⟨⟨_, rfl⟩, ?_, ?_⟩
  · simp only [String.utf8ByteSize_append, utf8ByteSize_blanks]
    omega
  · intro hwide
    rw [hnatural] at hwide
    rw [Nat.sub_eq_zero_of_le hwide]
    simp [blanks]

/-! ### Lines -/

/-- A text in which a line is seen that reaches the configured column. -/
def Aligned (config : Config) (lead told text : String) : Prop :=
  ∃ line, Painted config.useColors line text ∧ Reaches config.width lead told line

/-- The two pieces of a status line, put together. -/
theorem finish_aligned (config : Config) (lead word : String) (color : Color)
    (elapsed : Duration) :
    ∃ text, finish config lead.utf8ByteSize word color elapsed = Output.line text ∧
      Aligned config lead (told word elapsed.elapsedText.1) (lead ++ text) := by
  obtain ⟨text, hfinish, hpainted⟩ :=
    finish_painted config lead.utf8ByteSize word color elapsed
  refine ⟨text, hfinish, _, ?_, reaches_of_blanks config.width lead _⟩
  rw [utf8ByteSize_told, String.append_assoc]
  exact (Painted.text lead).append hpainted

/-- A call that was not made took no time, so none is shown. -/
theorem told_zero (word : String) : told word Duration.zero.elapsedText.1 = word := by
  have hquick : Duration.zero.elapsedText.1 = "" := by decide +kernel
  rw [hquick, told, if_pos rfl]

/-! ### Calls -/

variable {α : Type}

/-- The status word for what a body comes to. -/
def wordFor : Except Report α → String
  | .ok _ => "passed"
  | .error report => s!"failed ({report.text})"

/-- A test whose output is kept back is reported by its status line, and nothing stands between the
two pieces of the line. If it failed, the summary and what was captured come after it. -/
theorem call_of_captured {config : Config} {intercept : Bool} (hverbose : config.verbose = false)
    (hintercept : intercept = true) (name label : String) (body : Printed (Except Report α))
    (elapsed : Duration) :
    ∃ color after, (call config name label .statusLine intercept body elapsed).text =
      lead name ++
        finish config (lead name).utf8ByteSize (wordFor body.value) color elapsed ++ after := by
  subst hintercept
  rw [call, hverbose]
  cases hvalue : body.value with
  | ok value =>
    exact ⟨.green, "", by simp [Output.capture, hvalue, success, wordFor]⟩
  | error report =>
    refine ⟨.red, Output.line report.summary ++ Output.line "" ++ Output.replay label body.text, ?_⟩
    simp [Output.capture, hvalue, failure, wordFor, String.append_assoc]

/-- **Status lines reach their column.** Take a test whose output is kept back, or a call that is
not made. What is seen of the line before its line end is the name after two blanks and with three
dots, the status word and, if one is shown, the time. It has as many bytes as the configured width
says, or as many as these parts have if that is more, and all that is added are blanks before the
status word. Colours are put between the parts and count for nothing. -/
theorem lines_reach_width (config : Config) (name label reason : String) (intercept : Bool)
    (body : Printed (Except Report α)) (elapsed : Duration) :
    (config.verbose = false → intercept = true →
      ∃ text after,
        (call config name label .statusLine intercept body elapsed).text =
          Output.line text ++ after ∧
        Aligned config s!"  {name}... " (told (wordFor body.value) elapsed.elapsedText.1) text) ∧
    ∃ text, skip config name reason = Output.line text ∧
      Aligned config s!"  {name}... " s!"skipped ({reason})" text := by
  refine ⟨?_, ?_⟩
  · intro hverbose hintercept
    obtain ⟨color, after, hcall⟩ := call_of_captured hverbose hintercept name label body elapsed
    obtain ⟨text, hfinish, haligned⟩ :=
      finish_aligned config (lead name) (wordFor body.value) color elapsed
    refine ⟨lead name ++ text, after, ?_, haligned⟩
    rw [hcall, hfinish, Output.line, Output.line, ← String.append_assoc]
  · obtain ⟨text, hfinish, haligned⟩ :=
      finish_aligned config (lead name) s!"skipped ({reason})" .yellow .zero
    rw [told_zero] at haligned
    refine ⟨lead name ++ text, ?_, haligned⟩
    rw [skip, hfinish, Output.line, Output.line, String.append_assoc]

/-- A slow test fails with two lines, in colour. The blanks make up for letters of two bytes. -/
theorem sample_line_reaches_width :
    let config : Config := { useColors := true, width := 40 }
    let body : Printed (Except Report Unit) := ⟨.error (.message "no\nwäy"), "kept back"⟩
    config.verbose = false ∧
      (call config "T.ä" "ä" .statusLine true body (.ofSecs 6)).text =
        "  T.ä...        \x1b[31mfailed (no\nwäy)\x1b[0m \x1b[33m[6.0s]\x1b[0m\n" ++
          "Error: no\n\n" ++ Output.replay "ä" "kept back" ∧
      ∃ text after,
        (call config "T.ä" "ä" .statusLine true body (.ofSecs 6)).text =
          Output.line text ++ after ∧
        Aligned config "  T.ä... " "failed (no\nwäy) [6.0s]" text := by
  intro config body
  have htold : told (wordFor body.value) (Duration.ofSecs 6).elapsedText.1 =
      "failed (no\nwäy) [6.0s]" := by decide +kernel
  have hreach := (lines_reach_width config "T.ä" "ä" "" true body (.ofSecs 6)).1 rfl rfl
  rw [htold] at hreach
  exact ⟨rfl, by decide +kernel, hreach⟩

end Status

end Testbed
