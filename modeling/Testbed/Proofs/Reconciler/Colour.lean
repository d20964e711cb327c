import Testbed.Proofs.Output.Colour
import Testbed.Proofs.Reconciler.Ways

/-!
# What is printed on the way to a cluster

A reconciler prints what mutations and launches print, and announces a start by the names of the
requirements. Where none of these has an escape character, neither has what it prints, nor the
fault that it may end with.

## What is deliberately absent

An internal fault may say anything. It is passed on, and never printed by a campaign.

## Main definitions

* `Printed.Colourless` — a text and a fault without an escape character
* `Requirement.Colourless`, `Launcher.Colourless` — sources of such

## Main results

* `Reconciler.reconcile_colourless`
-/

namespace Testbed

open Output (Plain)

variable {T C W : Type}

/-! ### Sources -/

/-- A fault is internal, or is told without an escape character. -/
def Fault.Colourless (fault : Fault) : Prop :=
  fault.isInternal = false → Plain fault.message

/-- What is printed has no escape character, nor has the fault, if there is one. -/
structure Printed.Colourless {α : Type} (printed : Printed (Except Fault α)) : Prop where
  text : Plain printed.text
  fault : ∀ fault, printed.value = .error fault → fault.Colourless

/-- What is printed before is put before it. -/
theorem Printed.Colourless.after {α : Type} {value : Except Fault α} {before text : String}
    (h : Printed.Colourless ⟨value, text⟩) (hbefore : Plain before) :
    Printed.Colourless ⟨value, before ++ text⟩ :=
  ⟨(Output.plain_append ..).mpr ⟨hbefore, h.text⟩, h.fault⟩

/-- The fault may be passed on in place of another value, with another text. -/
theorem Printed.Colourless.passOn {α β : Type} {fault : Fault} {text text' : String}
    (h : Printed.Colourless (⟨.error fault, text⟩ : Printed (Except Fault α)))
    (htext : Plain text') :
    Printed.Colourless (⟨.error fault, text'⟩ : Printed (Except Fault β)) :=
  ⟨htext, fun fault' hfault => h.fault fault' (by cases hfault; rfl)⟩

theorem Printed.colourless_ok {α : Type} {text : String} (htext : Plain text) (value : α) :
    Printed.Colourless ⟨.ok value, text⟩ :=
  ⟨htext, by simp⟩

/-- What is told of a mutation. -/
def Mutation.told (made : Mutation C W) : Printed (Except Fault Unit) :=
  ⟨made.result, made.printed⟩

/-- What is told of an operation that may fail. -/
def Effect.told {α : Type} (effect : Effect α W) : Printed (Except Fault α) :=
  ⟨effect.result, effect.printed⟩

/-- What is told of an attempt at a cluster. -/
def Reconciler.Attempt.told {α : Type} (got : Attempt (Except Fault α) C W) :
    Printed (Except Fault α) :=
  ⟨got.outcome, got.printed⟩

/-- The name of a requirement has no escape character, and its mutation tells none. -/
structure Requirement.Colourless (requirement : Requirement C W) : Prop where
  name : Plain requirement.name
  makeMet : ∀ cluster world, (requirement.makeMet cluster world).told.Colourless

/-- No launch tells an escape character. -/
def Launcher.Colourless (launcher : Launcher C W) : Prop :=
  ∀ options world, (launcher options world).told.Colourless

/-! ### Asking for a cluster -/

theorem Requirement.makeAllMet_colourless (onlyUnmet : Bool) {requirements : List (Requirement C W)}
    (h : ∀ requirement ∈ requirements, requirement.Colourless) (cluster : C) (world : W) :
    (Requirement.makeAllMet onlyUnmet requirements cluster world).told.Colourless := by
  induction requirements generalizing cluster world with
  | nil => exact Printed.colourless_ok Output.plain_empty ()
  | cons requirement rest ih =>
    obtain ⟨hfirst, hrest⟩ := List.forall_mem_cons.mp h
    have hmade := hfirst.makeMet cluster world
    rw [makeAllMet]
    split
    · exact ih hrest cluster world
    · generalize requirement.makeMet cluster world = made at hmade
      rcases made with ⟨_ | _, cluster, world, printed⟩
      · exact hmade
      · exact (ih hrest cluster world).after hmade.text

namespace RequirementSet

variable {set : RequirementSet C W}
  (hrequirements : ∀ requirement ∈ set.requirements, requirement.Colourless)
  (hlauncher : set.launcher.Colourless)
include hrequirements

theorem text_plain : Plain set.text := by
  have hnames : Plain (", ".intercalate (Requirement.names set.requirements)) := by
    refine Output.plain_intercalate (by decide) ?_
    intro name hmem
    obtain ⟨requirement, hrequirement, rfl⟩ := List.mem_map.mp hmem
    exact (hrequirements requirement hrequirement).name
  simp +decide [text, hnames]

include hlauncher

theorem create_colourless (base : LaunchOptions) (world : W) :
    (set.create base world).told.Colourless := by
  have hlaunched := hlauncher (set.configure base) world
  rw [create]
  generalize set.launcher (set.configure base) world = launched at hlaunched
  rcases launched with ⟨fault | cluster, world, printed⟩
  · exact hlaunched.passOn hlaunched.text
  · have hmade := Requirement.makeAllMet_colourless true hrequirements cluster world
    simp only
    generalize Requirement.makeAllMet true set.requirements cluster world = made at hmade
    have htext := (hmade.after hlaunched.text).text
    rcases made with ⟨fault | _, _, _, _⟩
    · exact hmade.passOn htext
    · exact Printed.colourless_ok htext _

end RequirementSet

namespace Reconciler

/-- An unmet requirement after its own mutation is an internal fault. -/
theorem unmetAfterReconcile_colourless (unmet : List String) :
    (Fault.unmetAfterReconcile unmet).Colourless := by
  intro hinternal
  cases hinternal

section

variable {set : RequirementSet C W}
  (hrequirements : ∀ requirement ∈ set.requirements, requirement.Colourless)
include hrequirements

theorem tryReuse_colourless (r : Reconciler C) (world : W) :
    let kept := r.tryReuse set world
    Plain kept.printed ∧ ∀ fault, kept.outcome = .failed fault → fault.Colourless := by
  cases hheld : r.cluster with
  | none =>
    rw [tryReuse_of_none hheld]
    exact ⟨Output.plain_empty, by simp⟩
  | some cluster =>
    by_cases hmet : set.toRequirements.unmet cluster = []
    · rw [tryReuse_of_met hheld hmet]
      exact ⟨Output.plain_empty, by simp⟩
    · cases hsatisfiable : (set.toRequirements.satisfiable cluster).1 with
      | false =>
        rw [tryReuse_of_notSatisfiable hheld hmet hsatisfiable]
        exact ⟨Output.plain_empty, by simp⟩
      | true =>
        have hunmet : ∀ requirement ∈ set.unmet cluster, requirement.Colourless :=
          fun requirement hmem => hrequirements requirement (List.mem_filter.mp hmem).1
        have hmade : (Requirement.makeAllMet false (set.toRequirements.satisfiable cluster).2
            cluster world).told.Colourless :=
          Requirement.makeAllMet_colourless false hunmet cluster world
        rw [tryReuse_of_satisfiable hheld hmet hsatisfiable rfl]
        generalize Requirement.makeAllMet _ _ _ _ = made at hmade
        constructor
        · show Plain (if r.verbose then made.printed else "")
          split
          · exact hmade.text
          · exact Output.plain_empty
        · intro fault hfailed
          rcases made with ⟨fault' | _, after, _, _⟩
          · cases hfailed
            exact hmade.fault _ rfl
          · simp only at hfailed
            split at hfailed
            · cases hfailed
            · cases hfailed
              exact unmetAfterReconcile_colourless _

variable (hlauncher : set.launcher.Colourless)
include hlauncher

theorem replace_colourless (platform : Platform C W) (r : Reconciler C) (world : W) :
    (r.replace platform set world).told.Colourless := by
  have hannounced :
      Plain (Output.line ("Starting cluster to satisfy requirements: " ++ set.text)) := by
    simp +decide [RequirementSet.text_plain hrequirements]
  have hcreated : (set.toRequirements.create (r.retire platform world).1.launchBase
      (r.retire platform world).2).told.Colourless :=
    set.create_colourless hrequirements hlauncher _ _
  rw [replace]
  generalize r.retire platform world = retired at hcreated
  generalize set.toRequirements.create _ _ = created at hcreated
  have htext := (hcreated.after hannounced).text
  rcases created with ⟨fault | cluster, world, printed⟩
  · exact hcreated.passOn htext
  · dsimp only
    split
    · refine Printed.colourless_ok ((Output.plain_append ..).mpr ⟨htext, ?_⟩) ()
      decide
    · refine ⟨htext, ?_⟩
      rintro fault ⟨⟩
      exact unmetAfterReconcile_colourless _

theorem createNext_colourless (platform : Platform C W) (r : Reconciler C) (world : W) :
    (r.createNext platform set world).told.Colourless := by
  have hreplaced := replace_colourless hrequirements hlauncher platform r world
  rw [createNext]
  generalize r.replace platform set.toRequirements world = replaced at hreplaced
  rcases replaced with ⟨fault | _, reconciler, world, printed⟩
  · exact hreplaced.passOn hreplaced.text
  · exact Printed.colourless_ok hreplaced.text _

/-- What is printed on the way to a cluster has no escape character, nor has a fault that is not
internal. -/
theorem reconcile_colourless (platform : Platform C W) (r : Reconciler C) (reuseAllowed : Bool)
    (world : W) :
    (r.reconcile platform set reuseAllowed world).told.Colourless := by
  cases reuseAllowed with
  | false => exact createNext_colourless hrequirements hlauncher platform r world
  | true =>
    obtain ⟨hprinted, hfault⟩ := tryReuse_colourless hrequirements r world
    rw [reconcile_of_tryReuse rfl]
    generalize r.tryReuse set.toRequirements world = kept at hprinted hfault
    rcases kept with ⟨_ | acquisition | fault, reconciler, world, printed⟩
    · exact createNext_colourless hrequirements hlauncher platform reconciler world
    · exact Printed.colourless_ok hprinted acquisition
    · exact ⟨hprinted, fun fault' h => hfault fault' (by cases h; rfl)⟩

end

end Reconciler

end Testbed
