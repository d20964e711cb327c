import Mathlib.Data.List.Basic
import Testbed.Output.Status
import Testbed.Seed.Basic

/-!
# Colour sequences

A terminal is told of colours by sequences: an escape character, a bracket, digits and semicolons,
and an `m`. A text in colour decorates a text without, if it is that text with sequences put in
between characters. Decoration goes through concatenation, so it is shown piece by piece; and from
a text in colour the one without is had back by deleting every sequence.

Columns are counted before a colour is put on, so the blanks of a status line are the same.

## What is deliberately absent

A decorated text has no escape character of its own. Otherwise a sequence of its own would be
deleted too, and what is had back would not be the text. Of any other text it is only said what is
seen of it, and not how that is had back.

## Main definitions

* `Output.IsColour` — a colour sequence
* `Output.stripColours` — a text without its colour sequences
* `Output.Plain` — a text without an escape character
* `Output.Decorates` — the one text is the other in colour
* `Output.Painted` — a text as it is seen, and as it is written
* `Status.told` — the status word, with the time if one is shown

## Main results

* `Output.Decorates.strip_eq` — the plain text is had back
* `Output.Painted.decorates_of_seen` — with colours and without, if the same is seen
* `Status.finish_painted` — what is seen of the second piece of a status line
* `Status.call_decorates`, `Status.skip_decorates` — the report of a call in colour
-/

namespace Testbed.Output

/-! ### Sequences -/

/-- The character that starts a sequence. -/
def escape : Char := '\x1b'

/-- Whether a character may stand between the bracket and the last character. -/
def isParameter (c : Char) : Bool :=
  c.isDigit || c == ';'

/-- An escape character, a bracket, digits and semicolons, and an `m`. -/
def IsColour (chars : List Char) : Prop :=
  ∃ parameters : List Char, chars = escape :: '[' :: (parameters ++ ['m']) ∧
    ∀ c ∈ parameters, isParameter c = true

/-- How many characters the parameters at the front of a text have, together with the `m` after
them. -/
def parametersLength? : List Char → Option Nat
  | [] => none
  | c :: rest =>
    if c = 'm' then some 1
    else if isParameter c then (parametersLength? rest).map (· + 1)
    else none

/-- How many characters the colour sequence at the front of a text has, after its first. -/
def colourLength? : List Char → Option Nat
  | c :: '[' :: rest => if c = escape then (parametersLength? rest).map (· + 1) else none
  | _ => none

/-- A text without its colour sequences, after so many characters that belong to one. -/
def stripFrom : Nat → List Char → List Char
  | _, [] => []
  | skip + 1, _ :: rest => stripFrom skip rest
  | 0, c :: rest =>
    match colourLength? (c :: rest) with
    | some length => stripFrom length rest
    | none => c :: stripFrom 0 rest

/-- A text without its colour sequences. -/
def stripColours (text : String) : String :=
  String.ofList (stripFrom 0 text.toList)

theorem parametersLength?_append {parameters : List Char}
    (hparameters : ∀ c ∈ parameters, isParameter c = true) (rest : List Char) :
    parametersLength? (parameters ++ 'm' :: rest) = some (parameters.length + 1) := by
  induction parameters with
  | nil => rfl
  | cons c later ih =>
    obtain ⟨hc, hlater⟩ := List.forall_mem_cons.mp hparameters
    have hne : c ≠ 'm' := by
      rintro rfl
      exact absurd hc (by decide)
    rw [List.cons_append, parametersLength?, if_neg hne, if_pos hc, ih hlater]
    rfl

theorem stripFrom_eq_drop (skip : Nat) (chars : List Char) :
    stripFrom skip chars = stripFrom 0 (chars.drop skip) := by
  induction skip generalizing chars with
  | zero => rfl
  | succ skip ih =>
    cases chars with
    | nil => rfl
    | cons c rest => exact ih rest

/-- A sequence is deleted. -/
theorem stripFrom_colour {seq : List Char} (hseq : IsColour seq) (rest : List Char) :
    stripFrom 0 (seq ++ rest) = stripFrom 0 rest := by
  obtain ⟨parameters, rfl, hparameters⟩ := hseq
  -- The length counts from after the escape character, which `stripFrom` drops by itself.
  have hlength : colourLength? (escape :: '[' :: (parameters ++ 'm' :: rest)) =
      some (parameters.length + 2) := by
    rw [colourLength?, if_pos rfl, parametersLength?_append hparameters]
    rfl
  have hchars : escape :: '[' :: (parameters ++ ['m']) ++ rest =
      escape :: '[' :: (parameters ++ 'm' :: rest) := by simp
  have hdrop : ('[' :: (parameters ++ 'm' :: rest)).drop (parameters.length + 2) = rest := by simp
  rw [hchars, stripFrom, hlength]
  dsimp only
  rw [stripFrom_eq_drop, hdrop]

/-- A character that starts no sequence stays. -/
theorem stripFrom_cons {c : Char} (hc : c ≠ escape) (rest : List Char) :
    stripFrom 0 (c :: rest) = c :: stripFrom 0 rest := by
  have hnone : colourLength? (c :: rest) = none := by
    unfold colourLength?
    split
    · exact if_neg (by simp_all)
    · rfl
  rw [stripFrom, hnone]

/-! ### Plain texts -/

/-- A text without an escape character. -/
def Plain (text : String) : Prop :=
  escape ∉ text.toList

instance (text : String) : Decidable (Plain text) :=
  inferInstanceAs (Decidable (escape ∉ text.toList))

@[simp] theorem plain_empty : Plain "" := by decide

@[simp] theorem plain_append (text later : String) :
    Plain (text ++ later) ↔ Plain text ∧ Plain later := by
  simp [Plain]

@[simp] theorem plain_ofList (chars : List Char) :
    Plain (String.ofList chars) ↔ escape ∉ chars := by
  simp [Plain]

@[simp] theorem plain_toString (text : String) : Plain (toString text) ↔ Plain text :=
  Iff.rfl

@[simp] theorem plain_repr (n : Nat) : Plain n.repr := by
  intro hmem
  have hdigits : n.repr.toList = Nat.toDigits 10 n := String.toList_ofList
  rw [hdigits] at hmem
  exact absurd (Nat.isDigit_of_mem_toDigits (by decide) (by decide) hmem) (by decide)

@[simp] theorem plain_line (text : String) : Plain (line text) ↔ Plain text := by
  rw [line, plain_append]
  exact and_iff_left (by decide)

theorem plain_join {texts : List String} (h : ∀ text ∈ texts, Plain text) :
    Plain (String.join texts) := by
  simp only [Plain, String.toList_join, List.mem_flatMap, not_exists, not_and]
  exact h

theorem plain_intercalate {separator : String} (hseparator : Plain separator)
    {texts : List String} (h : ∀ text ∈ texts, Plain text) :
    Plain (separator.intercalate texts) := by
  induction texts with
  | nil => exact plain_empty
  | cons text rest ih =>
    obtain ⟨htext, hrest⟩ := List.forall_mem_cons.mp h
    cases rest with
    | nil => simpa using htext
    | cons next later =>
      rw [String.intercalate_cons_cons]
      simp [htext, hseparator, ih hrest]

theorem plain_firstLine {text : String} (h : Plain text) : Plain (Text.firstLine text) := by
  have hsub : ∀ chars, escape ∉ chars → escape ∉ Text.firstLineChars chars := by
    intro chars
    fun_induction Text.firstLineChars chars <;> simp_all
  exact (plain_ofList _).mpr (hsub _ h)

/-! ### Decoration -/

/-- The second text is the first, with colour sequences put in between its characters. -/
inductive DecoratesChars : List Char → List Char → Prop where
  | nil : DecoratesChars [] []
  | keep {c plain coloured} (hc : c ≠ escape) (h : DecoratesChars plain coloured) :
      DecoratesChars (c :: plain) (c :: coloured)
  | colour {seq plain coloured} (hseq : IsColour seq) (h : DecoratesChars plain coloured) :
      DecoratesChars plain (seq ++ coloured)

theorem DecoratesChars.append {plain coloured plain' coloured' : List Char}
    (h : DecoratesChars plain coloured) (h' : DecoratesChars plain' coloured') :
    DecoratesChars (plain ++ plain') (coloured ++ coloured') := by
  induction h with
  | nil => exact h'
  | keep hc _ ih => exact .keep hc ih
  | colour hseq _ ih =>
    rw [List.append_assoc]
    exact .colour hseq ih

theorem DecoratesChars.refl {chars : List Char} (h : escape ∉ chars) :
    DecoratesChars chars chars := by
  induction chars with
  | nil => exact .nil
  | cons c rest ih =>
    obtain ⟨hc, hrest⟩ := List.ne_and_not_mem_of_not_mem_cons h
    exact .keep hc.symm (ih hrest)

theorem DecoratesChars.strip_eq {plain coloured : List Char} (h : DecoratesChars plain coloured) :
    stripFrom 0 coloured = plain := by
  induction h with
  | nil => rfl
  | keep hc _ ih => rw [stripFrom_cons hc, ih]
  | colour hseq _ ih => rw [stripFrom_colour hseq, ih]

/-- The second text is the first in colour. -/
def Decorates (plain coloured : String) : Prop :=
  DecoratesChars plain.toList coloured.toList

theorem Decorates.refl {text : String} (h : Plain text) : Decorates text text :=
  DecoratesChars.refl h

theorem Decorates.append {plain coloured plain' coloured' : String}
    (h : Decorates plain coloured) (h' : Decorates plain' coloured') :
    Decorates (plain ++ plain') (coloured ++ coloured') := by
  rw [Decorates, String.toList_append, String.toList_append]
  exact DecoratesChars.append h h'

/-- A plain text is had back from the text in colour. -/
theorem Decorates.strip_eq {plain coloured : String} (h : Decorates plain coloured) :
    stripColours coloured = plain := by
  rw [stripColours, DecoratesChars.strip_eq h, String.ofList_toList]

/-- A sequence decorates nothing. -/
theorem decorates_sequence {seq : String} (hseq : IsColour seq.toList) : Decorates "" seq := by
  have hdecorates := DecoratesChars.colour hseq .nil
  rwa [List.append_nil] at hdecorates

theorem Decorates.line {plain coloured : String} (h : Decorates plain coloured) :
    Decorates (line plain) (Output.line coloured) :=
  h.append (.refl (by decide))

/-! ### What is seen

A report is put together of parts, and it is known of each whether it was put in for colour. So what
is seen of a report is known too, also where its own texts have escape characters. -/

/-- The first text is what is seen of the second: without the colour sequences that were put in, if
colours are wanted at all. -/
inductive Painted (useColors : Bool) : String → String → Prop where
  | text (seen : String) : Painted useColors seen seen
  | sequence {written : String} (hcolours : useColors = true)
      (hsequence : IsColour written.toList) : Painted useColors "" written
  | append {seen written seen' written' : String} (h : Painted useColors seen written)
      (h' : Painted useColors seen' written') :
      Painted useColors (seen ++ seen') (written ++ written')

/-- Without colours a text is written as it is seen. -/
theorem Painted.eq_of_plain {seen written : String} (h : Painted false seen written) :
    written = seen := by
  induction h with
  | text _ => rfl
  | sequence hcolours _ => cases hcolours
  | append _ _ ih ih' => rw [ih, ih']

theorem Painted.decorates {useColors : Bool} {seen written : String}
    (h : Painted useColors seen written) (hseen : Plain seen) : Decorates seen written := by
  induction h with
  | text _ => exact .refl hseen
  | sequence _ hsequence => exact decorates_sequence hsequence
  | append _ _ ih ih' =>
    obtain ⟨hfirst, hsecond⟩ := (plain_append ..).mp hseen
    exact (ih hfirst).append (ih' hsecond)

/-- Of two texts of which the same is seen, the one with colours decorates the one without. -/
theorem Painted.decorates_of_seen {seen written coloured : String} (h : Painted false seen written)
    (hcoloured : Painted true seen coloured) (hseen : Plain seen) : Decorates written coloured := by
  rw [h.eq_of_plain]
  exact hcoloured.decorates hseen

end Testbed.Output

namespace Testbed

open Output (Plain Painted Decorates)

/-! ### Numbers, times and seeds -/

theorem Decimal.plain_placed (places units : Nat) : Plain (placed places units) := by
  rw [placed]
  split
  · exact Output.plain_repr units
  · simp +decide [List.mem_replicate]

theorem Binary64.plain_fixed (places : Nat) (value : Binary64) : Plain (value.fixed places) := by
  cases value with
  | finite negative mantissa exponent =>
    have hsign : Plain (if negative then "-" else "") := by
      split <;> decide
    exact (Output.plain_append ..).mpr ⟨hsign, Decimal.plain_placed places _⟩
  | infinite negative =>
    rw [fixed]
    split <;> decide
  | nan =>
    rw [fixed]
    decide

theorem Duration.plain_elapsedText (d : Duration) : Plain d.elapsedText.1 := by
  have hbrackets (text : String) (h : Plain text) : Plain ("[" ++ text ++ "s]") := by
    simp +decide [h]
  rw [elapsedText]
  split
  · split
    · exact hbrackets _ (Output.plain_repr _)
    · decide
  · split
    · exact hbrackets _ (Binary64.plain_fixed 1 _)
    · split
      · exact hbrackets _ (Binary64.plain_fixed 1 _)
      · split
        · exact hbrackets _ (Binary64.plain_fixed 2 _)
        · decide

theorem Seed.plain_text (seed : Seed) : Plain seed.text := by
  have hdigit : ∀ value < 16, Hex.digit value ≠ Output.escape := by decide
  rw [text, Hex.ofBytes, Output.plain_ofList, Hex.charsOfBytes, List.mem_flatMap]
  rintro ⟨byte, -, hmem⟩
  have hhigh : byte.toNat / 16 < 16 := Nat.div_lt_of_lt_mul byte.toNat_lt
  have hlow : byte.toNat % 16 < 16 := Nat.mod_lt _ (by decide)
  rcases List.mem_pair.mp hmem with h | h
  · exact hdigit _ hhigh h.symm
  · exact hdigit _ hlow h.symm

/-! ### Colours in reports -/

/-- The same settings, with colours. -/
def Config.inColour (config : Config) : Config :=
  { config with useColors := true }

theorem Color.isColour_sequence (color : Color) : Output.IsColour color.sequence.toList := by
  cases color with
  | red => exact ⟨['3', '1'], by decide, List.all_eq_true.mp rfl⟩
  | green => exact ⟨['3', '2'], by decide, List.all_eq_true.mp rfl⟩
  | yellow => exact ⟨['3', '3'], by decide, List.all_eq_true.mp rfl⟩

theorem Color.isColour_reset : Output.IsColour reset.toList :=
  ⟨['0'], by decide, List.all_eq_true.mp rfl⟩

theorem Config.colorize_painted (config : Config) (text : String) (color : Color) :
    Painted config.useColors text (config.colorize text color) := by
  rw [colorize, colorizeWith]
  cases hcolours : config.useColors with
  | false => exact .text text
  | true =>
    have hcoloured : Painted true ("" ++ text ++ "") (color.sequence ++ text ++ Color.reset) :=
      ((Painted.sequence rfl color.isColour_sequence).append (.text text)).append
        (.sequence rfl Color.isColour_reset)
    simpa using hcoloured

theorem Duration.coloredElapsed_painted (d : Duration) (config : Config) :
    Painted config.useColors d.elapsedText.1 (d.coloredElapsed config) := by
  rw [coloredElapsed]
  generalize d.elapsedText = elapsed
  obtain ⟨time, slow⟩ := elapsed
  cases slow with
  | true => exact config.colorize_painted time .yellow
  | false => exact .text time

namespace Status

/-- A status word, and after a blank the time if one is shown. -/
def told (word time : String) : String :=
  if time = "" then word else word ++ " " ++ time

theorem plain_blanks (count : Nat) : Plain (blanks count) := by
  simp +decide [blanks, List.mem_replicate]

theorem plain_told {word time : String} (hword : Plain word) (htime : Plain time) :
    Plain (told word time) := by
  rw [told]
  split
  · exact hword
  · simp +decide [hword, htime]

/-- What is seen of the second piece of a status line. -/
theorem finish_painted (config : Config) (leadSize : Nat) (word : String) (color : Color)
    (elapsed : Duration) :
    ∃ text, finish config leadSize word color elapsed = Output.line text ∧
      Painted config.useColors
        (blanks (config.width - (leadSize + visible word elapsed.elapsedText.1)) ++
          told word elapsed.elapsedText.1) text := by
  have hword := config.colorize_painted word color
  have htime := elapsed.coloredElapsed_painted config
  have htold : Painted config.useColors (told word elapsed.elapsedText.1)
      (config.colorize word color ++
        if elapsed.elapsedText.1.isEmpty then "" else " " ++ elapsed.coloredElapsed config) := by
    rw [told]
    by_cases hquick : elapsed.elapsedText.1 = ""
    · simpa [hquick] using hword
    · simpa [hquick, String.append_assoc] using hword.append ((Painted.text " ").append htime)
  refine ⟨_, rfl, ?_⟩
  rw [String.append_assoc]
  exact (Painted.text _).append htold

end Status

section

variable {config : Config} (hcolours : config.useColors = false)
include hcolours

theorem Config.colorize_decorates {text : String} (htext : Plain text) (color : Color) :
    Decorates (config.colorize text color) (config.inColour.colorize text color) := by
  have hplain := config.colorize_painted text color
  rw [hcolours] at hplain
  exact hplain.decorates_of_seen (config.inColour.colorize_painted text color) htext

theorem Status.finish_decorates {word : String} (hword : Plain word) (leadSize : Nat)
    (color : Color) (elapsed : Duration) :
    Decorates (finish config leadSize word color elapsed)
      (finish config.inColour leadSize word color elapsed) := by
  obtain ⟨plain, hfinish, hplain⟩ := finish_painted config leadSize word color elapsed
  obtain ⟨coloured, hfinish', hcoloured⟩ :=
    finish_painted config.inColour leadSize word color elapsed
  have hseen := (Output.plain_append ..).mpr
    ⟨plain_blanks (config.width - (leadSize + visible word elapsed.elapsedText.1)),
      plain_told hword elapsed.plain_elapsedText⟩
  rw [hcolours] at hplain
  rw [hfinish, hfinish']
  exact (hplain.decorates_of_seen hcoloured hseen).line

/-- The line of a call that is not made is the same, in colour. -/
theorem Status.skip_decorates {name reason : String} (hname : Plain name) (hreason : Plain reason) :
    Decorates (skip config name reason) (skip config.inColour name reason) := by
  have hlead : Plain (lead name) := by simp +decide [lead, hname]
  have hword : Plain s!"skipped ({reason})" := by simp +decide [hreason]
  exact (Decorates.refl hlead).append (finish_decorates hcolours hword _ .yellow _)

end

/-- What is told of a report has no escape character. -/
structure Report.Plain (report : Report) : Prop where
  text : Output.Plain report.text
  code : ∀ code ∈ report.code?, Output.Plain code

theorem Fault.Kind.plain_text (kind : Kind) : Plain kind.text := by
  cases kind <;> decide

theorem Report.Plain.summary {report : Report} (h : report.Plain) :
    Output.Plain report.summary := by
  have hheading : Output.Plain report.heading := by
    rw [heading]
    cases report.fault? with
    | some fault => exact fault.kind.plain_text
    | none =>
      cases hcode : report.code? with
      | some code => exact h.code code hcode
      | none => decide
  simp +decide [Report.summary, hheading, Output.plain_firstLine h.text]

theorem Output.plain_replay {name captured : String} (hname : Plain name)
    (hcaptured : Plain captured) : Plain (replay name captured) := by
  rw [replay]
  split
  · decide
  · split <;> simp +decide [hname, hcaptured]

namespace Output

variable {ε α : Type} {body : Printed (Except ε α)}

theorem plain_capture (hprinted : Plain body.text) (stream : Bool) :
    Plain (capture stream body).text := by
  rw [capture]
  split
  · exact hprinted
  · split <;> exact plain_empty

theorem plain_captured (hprinted : Plain body.text) (stream : Bool) :
    ∀ captured ∈ (capture stream body).value.2, Plain captured := by
  intro captured hmem
  rw [capture] at hmem
  split at hmem
  · cases hmem
  · split at hmem
    · cases hmem
    · cases hmem
      exact hprinted

end Output

namespace Status

variable {config : Config} (hcolours : config.useColors = false) {name label : String}
include hcolours

theorem success_decorates (name : String) (style : ReportStyle) (elapsed : Duration) :
    Decorates (success config name style elapsed) (success config.inColour name style elapsed) := by
  cases style with
  | statusLine => exact finish_decorates hcolours (by decide) _ .green elapsed
  | failureOnly => exact .refl Output.plain_empty

theorem failure_decorates (hname : Plain name) (hlabel : Plain label) (style : ReportStyle)
    {report : Report} (hreport : report.Plain) {captured : Option String}
    (hcaptured : ∀ text ∈ captured, Plain text) (elapsed : Duration) :
    Decorates (failure config name label style report captured elapsed)
      (failure config.inColour name label style report captured elapsed) := by
  have hreplay : Plain ((captured.map (Output.replay label)).getD "") := by
    cases captured with
    | none => exact Output.plain_empty
    | some text => exact Output.plain_replay hlabel (hcaptured text rfl)
  have hword : Plain s!"failed ({report.text})" := by simp +decide [hreport.text]
  have hlong : Plain s!"  {name} failed ({report.text})" := by
    simp +decide [hname, hreport.text]
  refine Decorates.append (Decorates.append (Decorates.append ?_ ?_) (.refl (by decide)))
    (.refl hreplay)
  · cases style with
    | statusLine => exact finish_decorates hcolours hword _ .red elapsed
    | failureOnly => exact (config.colorize_decorates hcolours hlong .red).line
  · exact (Decorates.refl hreport.summary).line

/-- What a call reports is the same, in colour. -/
theorem call_decorates {α : Type} (hname : Plain name) (hlabel : Plain label)
    (style : ReportStyle) (intercept : Bool) {body : Printed (Except Report α)}
    (hprinted : Plain body.text) (hreport : ∀ report, body.value = .error report → report.Plain)
    (elapsed : Duration) :
    Decorates (call config name label style intercept body elapsed).text
      (call config.inColour name label style intercept body elapsed).text := by
  have hlead : Plain (if style = .statusLine then lead name else "") := by
    split
    · simp +decide [lead, hname]
    · decide
  refine Decorates.append (Decorates.append (.refl hlead) (.refl ?_)) ?_
  · exact Output.plain_capture hprinted _
  · cases hvalue : body.value with
    | ok _ => exact success_decorates hcolours name style elapsed
    | error report =>
      exact failure_decorates hcolours hname hlabel style (hreport report hvalue)
        (Output.plain_captured hprinted _) elapsed

end Status

end Testbed
