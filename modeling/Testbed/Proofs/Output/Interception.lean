import Testbed.Output.Action
import Testbed.Proofs.Testset.Transcript

/-!
# Scopes within scopes

Of what is written in scopes within scopes, a text is seen if every scope around it that keeps its
output back failed. Then it is seen once, between the banners of just these scopes, and texts stand
in the order in which they were written.

Equal texts may be written at different places of a tree, and a text may look like a banner. So
nothing here is said about what can be found in the output. The output is a tree that is printed,
its leaves carry the places of the actions that wrote them, and its other nodes are banners.

## What is deliberately absent

An empty text is no text: a scope that captured nothing has no banners. A scope whose output is
measured keeps its output back and replays nothing.

## Main definitions

* `Output.Action.performAll` — actions that add to a sink, with a new buffer in each scope that
  keeps its output back
* `Output.Action.reachedAll` — the actions that are reached, what they write and the scopes around
* `Output.Action.seenAll` — what is seen of them
* `Output.Reached.Heard` — whether a text gets out of all scopes around it

## Main results

* `Output.Action.performAll_eq` — a sink is added to, whatever it holds
* `Output.Action.text_runAll` — what is printed is what is seen
* `Output.Action.leavesAll_seenAll` — what is seen are the texts that get out
* `Output.Action.captured_texts_appear_once`
-/

namespace Testbed

/-! ### Sinks -/

/-- A body against a sink: its value, and what the sink holds afterwards. -/
def Printed.into {α : Type} (body : Printed α) (sink : String) : α × String :=
  (body.value, sink ++ body.text)

namespace Output

section sinks

variable {ε α : Type}

/-- A body against the sink itself, or against a new buffer whose text is handed on if the body
fails. -/
def captureInto (stream : Bool) (body : String → Except ε α × String) (sink : String) :
    (Except ε α × Option String) × String :=
  if stream then
    let (result, sink) := body sink
    ((result, none), sink)
  else
    let (result, buffer) := body ""
    match result with
    | .ok _ => ((result, none), sink)
    | .error _ => ((result, some buffer), sink)

/-- The same, and what was captured is replayed into the sink. -/
def withCaptureInto (name : String) (stream : Bool) (body : String → Except ε α × String)
    (sink : String) : Except ε α × String :=
  let ((result, captured), sink) := captureInto stream body sink
  (result, sink ++ (captured.map (replay name)).getD "")

theorem captureInto_into (stream : Bool) (body : Printed (Except ε α)) :
    captureInto stream body.into = (capture stream body).into := by
  funext sink
  cases stream with
  | true => rfl
  | false => cases h : body.value <;> simp [captureInto, capture, Printed.into, h]

theorem withCaptureInto_into (name : String) (stream : Bool) (body : Printed (Except ε α)) :
    withCaptureInto name stream body.into = (withCapture name stream body).into := by
  funext sink
  rw [withCaptureInto, captureInto_into]
  simp [Printed.into, withCapture, String.append_assoc]

end sinks

namespace Action

/-- The line after a measured scope: whether it captured a text, and how many bytes. -/
def measured (captured : Option String) : String :=
  let size := (captured.getD "").utf8ByteSize
  Output.line s!"captured {captured.isSome} {size}"

mutual

/-- Takes one action against a sink: the result that ends the list, if it does, and what the sink
holds afterwards. -/
def perform : Action → String → Option Result × String
  | .scope name stream body swallow, sink =>
    let (result, sink) := withCaptureInto name stream (performAll body) sink
    (afterScope result swallow, sink)
  | .measure stream body swallow, sink =>
    let ((result, captured), sink) := captureInto stream (performAll body) sink
    (afterScope result swallow, sink ++ measured captured)
  | action, sink => (run action).into sink

/-- Takes actions in order against a sink, up to one that ends the list. -/
def performAll : List Action → String → Result × String
  | [], sink => (.ok 0, sink)
  | action :: rest, sink =>
    match perform action sink with
    | (some result, sink) => (result, sink)
    | (none, sink) => performAll rest sink

end

mutual

theorem perform_eq (action : Action) : perform action = (run action).into := by
  cases action with
  | scope name stream body swallow =>
    funext sink
    rw [perform, performAll_eq body, withCaptureInto_into]
    rfl
  | measure stream body swallow =>
    funext sink
    rw [perform, performAll_eq body, captureInto_into]
    simp [Printed.into, run, measured, String.append_assoc]
  | _ => rfl

/-- What actions add to a sink, and how they end, is the same for every sink. -/
theorem performAll_eq (actions : List Action) : performAll actions = (runAll actions).into := by
  funext sink
  cases actions with
  | nil => simp [performAll, runAll, Printed.into]
  | cons action rest =>
    rw [performAll, perform_eq action, Printed.into, runAll]
    cases (run action).value with
    | some result => rfl
    | none => simp [performAll_eq rest, Printed.into, String.append_assoc]

end

end Action

/-! ### What is reached -/

/-- The place of an action in a tree: its number in its list, after those of the scopes around. -/
abbrev Place := List Nat

/-- A scope around an action. -/
structure Enclosure where
  place : Place
  /-- The name on its banners. A scope that is measured has none. -/
  name? : Option String
  stream : Bool
  /-- How its body ended. -/
  result : Result

namespace Enclosure

/-- What is written in the scope is written around it, now or at the end. -/
def LetsOut (e : Enclosure) : Prop :=
  e.stream = true ∨ e.name?.isSome = true ∧ e.result.isOk = false

instance : DecidablePred LetsOut :=
  fun e => inferInstanceAs (Decidable (e.stream = true ∨ _ ∧ _))

/-- The banners that a scope has which keeps its output back. -/
def banner? (e : Enclosure) : Option (Place × String) :=
  if e.stream then none else e.name?.map fun name => (e.place, name)

end Enclosure

/-- A text between banners, outermost first. -/
structure Leaf where
  place : Place
  text : String
  banners : List (Place × String)
  deriving DecidableEq

/-- The same text between one more pair of banners, if there is one. -/
def Leaf.inside (banner? : Option (Place × String)) (leaf : Leaf) : Leaf :=
  { leaf with banners := banner?.toList ++ leaf.banners }

@[simp] theorem Leaf.inside_none : Leaf.inside none = id := rfl

/-- An action that is reached, with what it writes itself and the scopes around it, outermost
first. -/
structure Reached where
  place : Place
  text : String
  around : List Enclosure

namespace Reached

/-- The same action in one more scope. -/
def within (e : Enclosure) (r : Reached) : Reached :=
  { r with around := e :: r.around }

/-- What is reached in a scope, and then the scope with what it writes itself. -/
def enclosed (e : Enclosure) (body : List Reached) (text : String) : List Reached :=
  body.map (within e) ++ [⟨e.place, text, []⟩]

/-- The action writes a text, and every scope around lets it out. -/
def Heard (r : Reached) : Prop :=
  r.text ≠ "" ∧ ∀ e ∈ r.around, e.LetsOut

instance : DecidablePred Heard :=
  fun r => inferInstanceAs (Decidable (r.text ≠ "" ∧ ∀ e ∈ r.around, e.LetsOut))

/-- The text between the banners of all scopes around that keep their output back. -/
def leaf (r : Reached) : Leaf :=
  ⟨r.place, r.text, r.around.filterMap Enclosure.banner?⟩

/-- The texts that are heard, in the order in which they were written. -/
def heard (reached : List Reached) : List Leaf :=
  (reached.filter fun r => r.Heard).map leaf

theorem heard_append (reached later : List Reached) :
    heard (reached ++ later) = heard reached ++ heard later := by
  simp [heard]

theorem map_place_enclosed (e : Enclosure) (body : List Reached) (text : String) :
    (enclosed e body text).map place = body.map place ++ [e.place] := by
  simp [enclosed, Function.comp_def, within]

theorem heard_within_iff {e : Enclosure} {r : Reached} :
    (r.within e).Heard ↔ e.LetsOut ∧ r.Heard := by
  simp only [Heard, within, List.forall_mem_cons]
  tauto

theorem leaf_within (e : Enclosure) (r : Reached) :
    (r.within e).leaf = r.leaf.inside e.banner? := by
  simp only [leaf, within, Leaf.inside, List.filterMap_cons]
  cases e.banner? <;> rfl

theorem heard_map_within {e : Enclosure} (h : e.LetsOut) (reached : List Reached) :
    heard (reached.map (.within e)) = (heard reached).map (.inside e.banner?) := by
  simp [heard, List.filter_map, Function.comp_def, heard_within_iff, h, leaf_within]

theorem heard_map_within_of_not {e : Enclosure} (h : ¬ e.LetsOut) (reached : List Reached) :
    heard (reached.map (.within e)) = [] := by
  simp [heard, List.filter_map, Function.comp_def, heard_within_iff, h]

end Reached

namespace Action

mutual

/-- What is reached in one action, and then the action itself. -/
def reachedBy (place : Place) : Action → List Reached
  | .scope name stream body _ =>
    Reached.enclosed ⟨place, some name, stream, (runAll body).value⟩ (reachedAll place 0 body) ""
  | .measure stream body _ =>
    Reached.enclosed ⟨place, none, stream, (runAll body).value⟩ (reachedAll place 0 body)
      (measured (capture stream (runAll body)).value.2)
  | action => [⟨place, (run action).text, []⟩]

/-- What is reached of a list, up to an action that ends it, in the order in which it writes. The
first action of the list has number `i`. -/
def reachedAll (place : Place) (i : Nat) : List Action → List Reached
  | [] => []
  | action :: rest =>
    reachedBy (place ++ [i]) action ++
      if (run action).value.isSome then [] else reachedAll place (i + 1) rest

end

end Action

/-! ### What is seen -/

/-- A part of an output: a text, or banners with something between them. -/
inductive Seen where
  /-- A text is not empty. -/
  | plain (place : Place) (text : String) (h : text ≠ "")
  /-- What is between the banners of a scope is not empty either. -/
  | between (place : Place) (name : String) (first : Seen) (rest : List Seen)

namespace Seen

/-- The banner before what is replayed. -/
def opening (name : String) : String :=
  s!"================== {name}() output begin =================\n"

/-- The banner after it. -/
def closing (name : String) : String :=
  s!"=================== {name}() output end ==================\n"

mutual

def render : Seen → String
  | .plain _ text _ => text
  | .between _ name first rest =>
    opening name ++ lineEnded (render first ++ renderAll rest) ++ closing name ++ "\n"

def renderAll : List Seen → String
  | [] => ""
  | seen :: rest => render seen ++ renderAll rest

end

mutual

/-- The texts, each with the banners around it. -/
def leaves : Seen → List Leaf
  | .plain place text _ => [⟨place, text, []⟩]
  | .between place name first rest =>
    (leaves first ++ leavesAll rest).map (.inside (some (place, name)))

def leavesAll : List Seen → List Leaf
  | [] => []
  | seen :: rest => leaves seen ++ leavesAll rest

end

mutual

/-- The places of all texts and banners. -/
def places : Seen → List Place
  | .plain place _ _ => [place]
  | .between place _ first rest => places first ++ placesAll rest ++ [place]

def placesAll : List Seen → List Place
  | [] => []
  | seen :: rest => places seen ++ placesAll rest

end

/-- A text, unless it is empty. -/
def ofText (place : Place) (text : String) : List Seen :=
  if h : text = "" then [] else [.plain place text h]

theorem renderAll_append (seen later : List Seen) :
    renderAll (seen ++ later) = renderAll seen ++ renderAll later := by
  induction seen with
  | nil => simp [renderAll]
  | cons first rest ih => simp [renderAll, ih, String.append_assoc]

theorem leavesAll_append (seen later : List Seen) :
    leavesAll (seen ++ later) = leavesAll seen ++ leavesAll later := by
  induction seen with
  | nil => rfl
  | cons first rest ih => simp [leavesAll, ih]

theorem placesAll_append (seen later : List Seen) :
    placesAll (seen ++ later) = placesAll seen ++ placesAll later := by
  induction seen with
  | nil => rfl
  | cons first rest ih => simp [placesAll, ih]

theorem renderAll_ofText (place : Place) (text : String) :
    renderAll (ofText place text) = text := by
  by_cases h : text = "" <;> simp [ofText, renderAll, render, h]

theorem leavesAll_ofText (place : Place) (text : String) :
    leavesAll (ofText place text) = Reached.heard [⟨place, text, []⟩] := by
  by_cases h : text = "" <;>
    simp [ofText, leavesAll, leaves, h, Reached.heard, Reached.Heard, Reached.leaf]

theorem placesAll_ofText (place : Place) (text : String) :
    (placesAll (ofText place text)).Sublist [place] := by
  by_cases h : text = "" <;> simp [ofText, placesAll, places, h]

theorem opening_ne_empty (name : String) : opening name ≠ "" := by
  intro h
  have hend : toString "() output begin =================\n" = "" :=
    (String.append_eq_empty_iff.mp h).2
  exact absurd hend (by decide)

theorem render_ne_empty (seen : Seen) : seen.render ≠ "" := by
  cases seen with
  | plain place text h => exact h
  | between place name first rest =>
    rw [render]
    simp [opening_ne_empty]

theorem renderAll_eq_empty_iff {seen : List Seen} : renderAll seen = "" ↔ seen = [] := by
  cases seen with
  | nil => simp [renderAll]
  | cons first rest => simp [renderAll, render_ne_empty]

end Seen

theorem replay_of_ne_empty {name captured : String} (h : captured ≠ "") :
    replay name captured =
      Seen.opening name ++ lineEnded captured ++ Seen.closing name ++ "\n" := by
  have hpieces : Piece.replay name captured =
      [.banner (Seen.opening name), .printed (lineEnded captured), .banner (Seen.closing name),
        .told "\n"] := if_neg h
  rw [← Piece.join_replay, hpieces]
  simp [Piece.text, String.append_assoc]

namespace Enclosure

/-- What is seen of a scope, from what is seen in it. Where nothing is seen there are no banners. -/
def passOn (e : Enclosure) : List Seen → List Seen
  | [] => []
  | first :: rest =>
    if e.stream then first :: rest
    else
      match e.name?, e.result with
      | some name, .error _ => [.between e.place name first rest]
      | _, _ => []

theorem passOn_of_stream {e : Enclosure} (h : e.stream = true) (seen : List Seen) :
    e.passOn seen = seen := by
  cases seen <;> simp [passOn, h]

theorem passOn_of_error {e : Enclosure} {name text : String} (hstream : e.stream = false)
    (hname : e.name? = some name) (hresult : e.result = .error text) (first : Seen)
    (rest : List Seen) : e.passOn (first :: rest) = [.between e.place name first rest] := by
  simp [passOn, hstream, hname, hresult]

theorem passOn_of_not_letsOut {e : Enclosure} (h : ¬ e.LetsOut) (seen : List Seen) :
    e.passOn seen = [] := by
  obtain ⟨place, name?, stream, result⟩ := e
  cases seen with
  | nil => rfl
  | cons first rest =>
    cases stream <;> cases name? <;> cases result <;>
      simp_all [passOn, LetsOut, Except.isOk, Except.toBool]

theorem LetsOut.streams_or_replays {e : Enclosure} (h : e.LetsOut) :
    e.stream = true ∨
      ∃ name text, e.stream = false ∧ e.name? = some name ∧ e.result = .error text := by
  obtain ⟨place, name?, stream, result⟩ := e
  cases stream <;> cases name? <;> cases result <;>
    simp_all [LetsOut, Except.isOk, Except.toBool]

theorem leavesAll_passOn_of_letsOut {e : Enclosure} (h : e.LetsOut) (seen : List Seen) :
    Seen.leavesAll (e.passOn seen) = (Seen.leavesAll seen).map (.inside e.banner?) := by
  obtain hstream | ⟨name, text, hstream, hname, hresult⟩ := h.streams_or_replays
  · simp [passOn_of_stream hstream, banner?, hstream]
  · cases seen with
    | nil => rfl
    | cons first rest =>
      simp [passOn_of_error hstream hname hresult, Seen.leavesAll, Seen.leaves, banner?, hstream,
        hname]

/-- A scope passes on the texts that get out of it, each between its banners. -/
theorem leavesAll_passOn (e : Enclosure) {seen : List Seen} {reached : List Reached}
    (h : Seen.leavesAll seen = Reached.heard reached) :
    Seen.leavesAll (e.passOn seen) = Reached.heard (reached.map (.within e)) := by
  by_cases hout : e.LetsOut
  · rw [leavesAll_passOn_of_letsOut hout, h, Reached.heard_map_within hout]
  · rw [passOn_of_not_letsOut hout, Reached.heard_map_within_of_not hout, Seen.leavesAll]

/-- What a scope passes on has places of what is in it, and after them that of its banners. -/
theorem placesAll_passOn (e : Enclosure) (seen : List Seen) :
    (Seen.placesAll (e.passOn seen)).Sublist
      (Seen.placesAll seen ++ (e.banner?.map Prod.fst).toList) := by
  by_cases hout : e.LetsOut
  · obtain hstream | ⟨name, text, hstream, hname, hresult⟩ := hout.streams_or_replays
    · rw [passOn_of_stream hstream]
      exact List.sublist_append_left _ _
    · cases seen with
      | nil => exact List.nil_sublist _
      | cons first rest =>
        rw [passOn_of_error hstream hname hresult]
        simp [Seen.placesAll, Seen.places, banner?, hstream, hname]
  · rw [passOn_of_not_letsOut hout]
    exact List.nil_sublist _

/-- A scope prints what it passes on of what its body prints. -/
theorem text_withCapture (place : Place) (name : String) (stream : Bool) {body : Printed Result}
    {seen : List Seen} (h : body.text = Seen.renderAll seen) :
    (withCapture name stream body).text =
      Seen.renderAll (passOn ⟨place, some name, stream, body.value⟩ seen) := by
  cases stream with
  | true => rw [withCapture_text_of_stream, passOn_of_stream rfl, h]
  | false =>
    cases hresult : body.value with
    | ok value =>
      have hkept : ¬ LetsOut ⟨place, some name, false, .ok value⟩ := by
        simp [LetsOut, Except.isOk, Except.toBool]
      rw [withCapture_text_of_ok hresult, passOn_of_not_letsOut hkept, Seen.renderAll]
    | error text =>
      rw [withCapture_text_of_error hresult, h]
      cases seen with
      -- Nothing was captured, so nothing is replayed.
      | nil => rfl
      | cons first rest =>
        have hne : Seen.renderAll (first :: rest) ≠ "" := by
          rw [Ne, Seen.renderAll_eq_empty_iff]
          exact List.cons_ne_nil _ _
        rw [replay_of_ne_empty hne, passOn_of_error rfl rfl rfl]
        simp [Seen.renderAll, Seen.render]

theorem text_capture (place : Place) (stream : Bool) {body : Printed Result}
    {seen : List Seen} (h : body.text = Seen.renderAll seen) :
    (capture stream body).text =
      Seen.renderAll (passOn ⟨place, none, stream, body.value⟩ seen) := by
  cases stream with
  | true =>
    rw [passOn_of_stream rfl, ← h]
    rfl
  | false =>
    rw [passOn_of_not_letsOut (by simp [LetsOut])]
    cases hresult : body.value <;> simp [capture, hresult, Seen.renderAll]

end Enclosure

namespace Action

mutual

/-- What is seen of one action. -/
def seenBy (place : Place) : Action → List Seen
  | .scope name stream body _ =>
    Enclosure.passOn ⟨place, some name, stream, (runAll body).value⟩ (seenAll place 0 body)
  | .measure stream body _ =>
    Enclosure.passOn ⟨place, none, stream, (runAll body).value⟩ (seenAll place 0 body) ++
      Seen.ofText place (measured (capture stream (runAll body)).value.2)
  | action => Seen.ofText place (run action).text

/-- What is seen of a list. -/
def seenAll (place : Place) (i : Nat) : List Action → List Seen
  | [] => []
  | action :: rest =>
    seenBy (place ++ [i]) action ++
      if (run action).value.isSome then [] else seenAll place (i + 1) rest

end

/-! The inductions are on the tree of actions. The place of a list and the number of its first
action are general, since the list of a scope lies deeper and the rest of a list starts later. -/

mutual

theorem text_run (place : Place) (action : Action) :
    (run action).text = Seen.renderAll (seenBy place action) := by
  cases action with
  | scope name stream body swallow =>
    rw [run, seenBy]
    exact Enclosure.text_withCapture place name stream (text_runAll place 0 body)
  | measure stream body swallow =>
    rw [run, seenBy, Seen.renderAll_append, Seen.renderAll_ofText,
      ← Enclosure.text_capture place stream (text_runAll place 0 body)]
    rfl
  | _ => exact (Seen.renderAll_ofText ..).symm

/-- What is printed is what is seen. -/
theorem text_runAll (place : Place) (i : Nat) (actions : List Action) :
    (runAll actions).text = Seen.renderAll (seenAll place i actions) := by
  cases actions with
  | nil => simp [runAll, seenAll, Seen.renderAll]
  | cons action rest =>
    rw [runAll, seenAll, Seen.renderAll_append, ← text_run]
    cases (run action).value with
    | some result => simp [Seen.renderAll]
    | none => simp [← text_runAll place (i + 1) rest]

end

mutual

theorem leavesAll_seenBy (place : Place) (action : Action) :
    Seen.leavesAll (seenBy place action) = Reached.heard (reachedBy place action) := by
  cases action with
  | scope name stream body swallow =>
    have hbody := leavesAll_seenAll place 0 body
    rw [seenBy, reachedBy, Reached.enclosed, Reached.heard_append,
      Enclosure.leavesAll_passOn _ hbody, ← Seen.leavesAll_ofText]
    simp [Seen.ofText, Seen.leavesAll]
  | measure stream body swallow =>
    have hbody := leavesAll_seenAll place 0 body
    rw [seenBy, reachedBy, Reached.enclosed, Reached.heard_append, Seen.leavesAll_append,
      Enclosure.leavesAll_passOn _ hbody, Seen.leavesAll_ofText]
  | _ => exact Seen.leavesAll_ofText ..

/-- What is seen are the texts that get out of all scopes around them. -/
theorem leavesAll_seenAll (place : Place) (i : Nat) (actions : List Action) :
    Seen.leavesAll (seenAll place i actions) = Reached.heard (reachedAll place i actions) := by
  cases actions with
  | nil => rfl
  | cons action rest =>
    rw [seenAll, reachedAll, Seen.leavesAll_append, Reached.heard_append, leavesAll_seenBy]
    split
    · rfl
    · rw [leavesAll_seenAll place (i + 1) rest]

end

/-! ### Places -/

mutual

/-- What is seen bears places of what is reached, in the same order. -/
theorem placesAll_seenBy (place : Place) (action : Action) :
    (Seen.placesAll (seenBy place action)).Sublist
      ((reachedBy place action).map Reached.place) := by
  cases action with
  | scope name stream body swallow =>
    rw [seenBy, reachedBy, Reached.map_place_enclosed]
    refine (Enclosure.placesAll_passOn _ _).trans ((placesAll_seenAll place 0 body).append ?_)
    cases stream <;> simp [Enclosure.banner?]
  | measure stream body swallow =>
    rw [seenBy, reachedBy, Reached.map_place_enclosed, Seen.placesAll_append]
    refine .append ((Enclosure.placesAll_passOn _ _).trans ?_) (Seen.placesAll_ofText ..)
    simpa [Enclosure.banner?] using placesAll_seenAll place 0 body
  | _ => exact Seen.placesAll_ofText ..

theorem placesAll_seenAll (place : Place) (i : Nat) (actions : List Action) :
    (Seen.placesAll (seenAll place i actions)).Sublist
      ((reachedAll place i actions).map Reached.place) := by
  cases actions with
  | nil => exact List.nil_sublist _
  | cons action rest =>
    rw [seenAll, reachedAll, Seen.placesAll_append, List.map_append]
    refine (placesAll_seenBy _ action).append ?_
    split
    · exact List.nil_sublist _
    · exact placesAll_seenAll place (i + 1) rest

end

/-- The places are of actions in the list at `place`, from its `i`-th on, or of what is in these. -/
def From (place : Place) (i : Nat) (places : List Place) : Prop :=
  ∀ inner ∈ places, ∃ j, i ≤ j ∧ place ++ [j] <+: inner

theorem From.below {place : Place} {i : Nat} {places : List Place} (h : From place i places) :
    ∀ inner ∈ places ++ [place], place <+: inner := by
  intro inner hinner
  obtain hinner | rfl := List.mem_append.mp hinner |>.imp_right List.mem_singleton.mp
  · obtain ⟨j, -, hbelow⟩ := h inner hinner
    exact (List.prefix_append place [j]).trans hbelow
  · exact List.prefix_rfl

theorem From.nodup {place : Place} {i : Nat} {places : List Place} (h : From place i places)
    (hnodup : places.Nodup) : (places ++ [place]).Nodup := by
  rw [List.nodup_append]
  refine ⟨hnodup, List.pairwise_singleton _ _, ?_⟩
  rintro inner hinner _ hplace rfl
  obtain rfl := List.mem_singleton.mp hplace
  obtain ⟨j, -, hbelow⟩ := h inner hinner
  have hlength : (inner ++ [j]).length ≤ inner.length := hbelow.length_le
  rw [List.length_append, List.length_singleton] at hlength
  omega

/-- Two actions of a list have no places in common. -/
theorem From.disjoint {place inner : Place} {i : Nat} {places : List Place}
    (h : From place (i + 1) places) (hbelow : place ++ [i] <+: inner) : inner ∉ places := by
  intro hinner
  obtain ⟨j, hj, hbelow'⟩ := h inner hinner
  have heq : place ++ [i] = place ++ [j] :=
    (List.prefix_of_prefix_length_le hbelow hbelow' (by simp)).eq_of_length (by simp)
  obtain rfl : i = j := by simpa using heq
  omega

mutual

/-- What is reached in an action has places at it or below. -/
theorem below_reachedBy (place : Place) (action : Action) :
    ∀ inner ∈ (reachedBy place action).map Reached.place, place <+: inner := by
  cases action with
  | scope name stream body swallow =>
    rw [reachedBy, Reached.map_place_enclosed]
    exact (from_reachedAll place 0 body).below
  | measure stream body swallow =>
    rw [reachedBy, Reached.map_place_enclosed]
    exact (from_reachedAll place 0 body).below
  | _ => simp [reachedBy]

/-- What is reached in a list is numbered from its first action on. -/
theorem from_reachedAll (place : Place) (i : Nat) (actions : List Action) :
    From place i ((reachedAll place i actions).map Reached.place) := by
  cases actions with
  | nil =>
    intro inner hinner
    cases hinner
  | cons action rest =>
    intro inner hinner
    rw [reachedAll, List.map_append, List.mem_append] at hinner
    obtain hinner | hinner := hinner
    · exact ⟨i, Nat.le_refl i, below_reachedBy _ action inner hinner⟩
    · split at hinner
      · cases hinner
      · obtain ⟨j, hj, hbelow⟩ := from_reachedAll place (i + 1) rest inner hinner
        exact ⟨j, by omega, hbelow⟩

end

mutual

theorem nodup_reachedBy (place : Place) (action : Action) :
    ((reachedBy place action).map Reached.place).Nodup := by
  cases action with
  | scope name stream body swallow =>
    rw [reachedBy, Reached.map_place_enclosed]
    exact (from_reachedAll place 0 body).nodup (nodup_reachedAll place 0 body)
  | measure stream body swallow =>
    rw [reachedBy, Reached.map_place_enclosed]
    exact (from_reachedAll place 0 body).nodup (nodup_reachedAll place 0 body)
  | _ => exact List.pairwise_singleton _ _

/-- No action is reached twice. -/
theorem nodup_reachedAll (place : Place) (i : Nat) (actions : List Action) :
    ((reachedAll place i actions).map Reached.place).Nodup := by
  cases actions with
  | nil => exact List.nodup_nil
  | cons action rest =>
    rw [reachedAll, List.map_append]
    split
    · simpa using nodup_reachedBy (place ++ [i]) action
    · refine List.nodup_append.mpr
        ⟨nodup_reachedBy _ action, nodup_reachedAll place (i + 1) rest, ?_⟩
      -- One place would have two numbers where it goes into this list.
      rintro inner haction _ hrest rfl
      exact (from_reachedAll place (i + 1) rest).disjoint
        (below_reachedBy _ action inner haction) hrest

end

/-- Against any sink, what is seen of actions is added to it. Every text that is reached is seen
once if all scopes around let it out, and otherwise not at all; it is seen between the banners of
those of the scopes that keep their output back; texts are seen in the order in which they were
written; no scope has its banners twice. A scope returns what its body returns. -/
theorem captured_texts_appear_once (actions : List Action) (sink : String) :
    let reached := reachedAll [] 0 actions
    let seen := seenAll [] 0 actions
    performAll actions sink = ((runAll actions).value, sink ++ Seen.renderAll seen) ∧
      Seen.leavesAll seen = (reached.filter fun r => r.Heard).map Reached.leaf ∧
      (reached.map Reached.place).Nodup ∧ (Seen.placesAll seen).Nodup ∧
      ∀ (name : String) (stream : Bool) (body : List Action) (sink : String),
        (withCaptureInto name stream (performAll body) sink).1 = (performAll body sink).1 := by
  intro reached seen
  have hnodup : (reached.map Reached.place).Nodup := nodup_reachedAll [] 0 actions
  refine ⟨?_, leavesAll_seenAll [] 0 actions, hnodup,
    (placesAll_seenAll [] 0 actions).nodup hnodup, ?_⟩
  · rw [performAll_eq, Printed.into, text_runAll [] 0 actions]
  · intro name stream body sink
    rw [performAll_eq, withCaptureInto_into]
    exact withCapture_value name stream (runAll body)

/-- A scope that fails; in it are one that fails and is swallowed, and one that succeeds. -/
def sampleNested : List Action :=
  [.write "a",
    .scope "outer" false
      [.write "a", .scope "inner" false [.line "b", .fail "x"] true,
        .scope "quiet" false [.write "a", .finish 1, .write "d"] false, .fail "y", .write "c"] false]

/-- The same text is written at three places and gets out at two. What comes after a failure or the
end of a list is not reached. -/
theorem sample_captured_texts_appear_once :
    let outer : Enclosure := ⟨[1], some "outer", false, .error "y"⟩
    let inner : Enclosure := ⟨[1, 1], some "inner", false, .error "x"⟩
    let quiet : Enclosure := ⟨[1, 2], some "quiet", false, .ok 1⟩
    (reachedAll [] 0 sampleNested).filter (fun r => r.text ≠ "") =
        [⟨[0], "a", []⟩, ⟨[1, 0], "a", [outer]⟩, ⟨[1, 1, 0], "b\n", [outer, inner]⟩,
          ⟨[1, 2, 0], "a", [outer, quiet]⟩] ∧
      Seen.leavesAll (seenAll [] 0 sampleNested) =
        [⟨[0], "a", []⟩, ⟨[1, 0], "a", [([1], "outer")]⟩,
          ⟨[1, 1, 0], "b\n", [([1], "outer"), ([1, 1], "inner")]⟩] ∧
      performAll sampleNested "sink\n" =
        (.error "y",
          "sink\na================== outer() output begin =================\n" ++
            "a================== inner() output begin =================\nb\n" ++
            "=================== inner() output end ==================\n\n" ++
            "=================== outer() output end ==================\n\n") := by
  intro outer inner quiet
  have hreached : reachedAll [] 0 sampleNested =
      [⟨[0], "a", []⟩, ⟨[1, 0], "a", [outer]⟩, ⟨[1, 1, 0], "b\n", [outer, inner]⟩,
        ⟨[1, 1, 1], "", [outer, inner]⟩, ⟨[1, 1], "", [outer]⟩,
        ⟨[1, 2, 0], "a", [outer, quiet]⟩, ⟨[1, 2, 1], "", [outer, quiet]⟩,
        ⟨[1, 2], "", [outer]⟩, ⟨[1, 3], "", [outer]⟩, ⟨[1], "", []⟩] := by
    simp [sampleNested, reachedAll, reachedBy, Reached.enclosed, Reached.within, runAll, afterScope,
      outer, inner, quiet]
  obtain ⟨hperform, hleaves, -⟩ := captured_texts_appear_once sampleNested "sink\n"
  rw [hleaves, hreached]
  refine ⟨by simp, by decide +kernel, hperform.trans (by decide +kernel)⟩

end Action

end Output

end Testbed
