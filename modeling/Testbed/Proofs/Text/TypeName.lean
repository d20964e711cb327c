import Mathlib.Data.List.Basic
import Testbed.Text.TypeName

/-!
# The last segment of a path

A full name is a path, and after it there may be type arguments in angle brackets. These are full
names again, so they have brackets and colons of their own. None of them is looked at, since the
name is cut off at its first bracket before the last two colons in a row are looked for.

Segments may be empty. Then four colons stand in a row, and two in a row are found at three places;
the last of these is the one that counts, as it always is.

## Main definitions

* `TypeName.IsSegment` — a text that can be a segment of a path
* `TypeName.IsFullName` — a path, with type arguments or without

## Main results

* `TypeName.afterColons_append` — what follows the last two colons in a row
* `TypeName.short_of_isFullName` — the short name is the last segment
-/

namespace Testbed.TypeName

/-! ### Texts with colons -/

/-- Where there are no colons, what is held is kept. -/
theorem afterColons_of_notMem {chars : List Char} (h : ':' ∉ chars) (held : List Char) :
    afterColons held chars = held := by
  induction chars with
  | nil => rfl
  | cons c rest ih =>
    obtain ⟨hc, hrest⟩ := List.ne_and_not_mem_of_not_mem_cons h
    rw [afterColons, if_neg (fun hcolons => hc hcolons.1.symm), ih hrest]

/-- Nothing that stands before the last two colons counts, neither characters nor what is held. -/
theorem afterColons_append {last : List Char} (h : ':' ∉ last) (before held : List Char) :
    afterColons held (before ++ ':' :: ':' :: last) = last := by
  induction before generalizing held with
  | nil =>
    have hhead : last.head? ≠ some ':' := fun hhead => h (List.mem_of_mem_head? hhead)
    rw [List.nil_append, afterColons, if_pos ⟨rfl, rfl⟩, List.tail_cons, afterColons,
      if_neg (fun hcolons => hhead hcolons.2), afterColons_of_notMem h]
  | cons c before ih =>
    rw [List.cons_append, afterColons]
    split <;> exact ih _

/-! ### Texts with brackets -/

/-- A text without a bracket is not cut. -/
theorem takeWhile_append_of_notMem {path : List Char} (h : '<' ∉ path) (rest : List Char) :
    (path ++ rest).takeWhile (· ≠ '<') = path ++ rest.takeWhile (· ≠ '<') := by
  refine List.takeWhile_append_of_pos fun c hc => ?_
  rw [decide_eq_true_iff]
  rintro rfl
  exact h hc

theorem shortChars_of_notMem {path : List Char} (h : '<' ∉ path) :
    shortChars path = afterColons path path := by
  have hpath := takeWhile_append_of_notMem h []
  rw [List.takeWhile_nil, List.append_nil] at hpath
  rw [shortChars, hpath]

/-- Whatever stands after the first bracket, the short name is that of the path before it. -/
theorem shortChars_append {path : List Char} (h : '<' ∉ path) (arguments : List Char) :
    shortChars (path ++ '<' :: arguments) = shortChars path := by
  have hpath := takeWhile_append_of_notMem h ('<' :: arguments)
  rw [List.takeWhile_cons_of_neg (by simp), List.append_nil] at hpath
  rw [shortChars, hpath, shortChars_of_notMem h]

/-! ### Full names -/

/-- A text that can be a segment of a path. -/
def IsSegment (text : String) : Prop :=
  ':' ∉ text.toList ∧ '<' ∉ text.toList

instance (text : String) : Decidable (IsSegment text) :=
  inferInstanceAs (Decidable (_ ∧ _))

/-- The path of some segments. -/
def path (segments : List String) : String :=
  "::".intercalate segments

/-- A path, with type arguments or without. The arguments may be any text. -/
inductive IsFullName (segments : List String) : String → Prop where
  | plain : IsFullName segments (path segments)
  | generic (arguments : String) : IsFullName segments (path segments ++ "<" ++ arguments)

theorem bracket_notMem_path {segments : List String} (h : ∀ segment ∈ segments, IsSegment segment) :
    '<' ∉ (path segments).toList := by
  induction segments with
  | nil => decide
  | cons segment rest ih =>
    obtain ⟨hsegment, hrest⟩ := List.forall_mem_cons.mp h
    cases rest with
    | nil => simpa [path] using hsegment.2
    | cons next later =>
      have hlater := ih hrest
      rw [path] at hlater ⊢
      rw [String.intercalate_cons_cons, String.toList_append, String.toList_append,
        List.mem_append, List.mem_append, not_or, not_or]
      exact ⟨⟨hsegment.2, by decide⟩, hlater⟩

/-- A path has one segment, or what stands before the last one ends with two colons. -/
theorem path_concat (init : List String) (last : String) :
    path (init ++ [last]) = last ∨ ∃ before, path (init ++ [last]) = before ++ "::" ++ last := by
  rw [path]
  cases init with
  | nil => exact .inl String.intercalate_singleton
  | cons first rest =>
    refine .inr ⟨"::".intercalate (first :: rest), ?_⟩
    rw [String.intercalate_append_of_ne_nil (by simp) (by simp), String.intercalate_singleton]

/-- The short name is the last segment of the path. -/
theorem short_of_isFullName {segments : List String} (hne : segments ≠ [])
    (hsegments : ∀ segment ∈ segments, IsSegment segment) {full : String}
    (hfull : IsFullName segments full) : short full = segments.getLast hne := by
  have hbracket := bracket_notMem_path hsegments
  have hcolon := (hsegments _ (List.getLast_mem hne)).1
  have hpath : shortChars (path segments).toList = (segments.getLast hne).toList := by
    have hends := path_concat segments.dropLast (segments.getLast hne)
    rw [List.dropLast_concat_getLast hne] at hends
    rw [shortChars_of_notMem hbracket]
    rcases hends with heq | ⟨before, heq⟩
    · rw [heq, afterColons_of_notMem hcolon]
    · rw [heq, String.toList_append, String.toList_append, List.append_assoc]
      exact afterColons_append hcolon ..
  have hshort : shortChars full.toList = (segments.getLast hne).toList := by
    cases hfull with
    | plain => exact hpath
    | generic arguments =>
      rw [String.toList_append, String.toList_append, List.append_assoc]
      exact (shortChars_append hbracket arguments.toList).trans hpath
  rw [short, hshort, String.ofList_toList]

end Testbed.TypeName
