import Mathlib.Data.String.Basic
import Testbed.Json.Parser

/-!
# The order of members

The names in a table increase, so each stands once, and an entry is found if and only if it is
there. Inserting keeps them so, and a JSON text is read by inserting one member after the other:
whatever a text stands for, every object in it, at any depth, has its names in order.

## Main definitions

* `Table.Ordered` — the names increase
* `Json.Ordered` — the names of every object increase
* `Json.HasMember` — an object has a member

## Main results

* `Table.Ordered.find?_eq_some_iff` — in an ordered table, what is there is what is found
* `Json.ordered_of_parse?` — what a text stands for is ordered
* `Json.Ordered.get?_eq_some_iff` — looking a member up is having it
-/

namespace Testbed

/-! ### Tables -/

namespace Table

variable {α : Type} {table : Table α} {name : String} {value value' : α}

/-- The names increase. -/
def Ordered (table : Table α) : Prop :=
  table.Pairwise fun entry later => entry.1 < later.1

theorem mem_of_mem_insert {entry : String × α} (h : entry ∈ insert name value table) :
    entry = (name, value) ∨ entry ∈ table := by
  induction table with
  | nil => exact .inl (List.mem_singleton.mp h)
  | cons held rest ih =>
    rw [insert] at h
    split at h
    · rcases List.mem_cons.mp h with rfl | hrest
      · exact .inl rfl
      · exact .inr (List.mem_cons_of_mem _ hrest)
    · split at h
      · exact List.mem_cons.mp h
      · rcases List.mem_cons.mp h with rfl | hrest
        · exact .inr (List.mem_cons_self ..)
        · exact (ih hrest).imp_right (List.mem_cons_of_mem _)

/-- Inserting keeps a table in order. -/
theorem Ordered.insert (h : table.Ordered) (name : String) (value : α) :
    (table.insert name value).Ordered := by
  induction table with
  | nil => exact List.pairwise_singleton _ _
  | cons held rest ih =>
    obtain ⟨hlater, hrest⟩ := List.pairwise_cons.mp h
    rw [Table.insert]
    split
    · next heq =>
      subst heq
      exact List.pairwise_cons.mpr ⟨hlater, hrest⟩
    · next hne =>
      split
      · next hlt =>
        refine List.pairwise_cons.mpr ⟨?_, h⟩
        intro entry hmem
        rcases List.mem_cons.mp hmem with rfl | hmem
        · exact hlt
        · exact String.lt_trans hlt (hlater entry hmem)
      · next hle =>
        refine List.pairwise_cons.mpr ⟨?_, ih hrest⟩
        intro entry hmem
        rcases mem_of_mem_insert hmem with rfl | hmem
        · exact lt_of_le_of_ne (String.not_lt.mp hle) (Ne.symm hne)
        · exact hlater entry hmem

/-- In an ordered table each name stands once. -/
theorem Ordered.value_eq (h : table.Ordered) (hmem : (name, value) ∈ table)
    (hmem' : (name, value') ∈ table) : value = value' := by
  induction table with
  | nil => cases hmem
  | cons held rest ih =>
    obtain ⟨hlater, hordered⟩ := List.pairwise_cons.mp h
    rcases List.mem_cons.mp hmem with rfl | hrest
    · rcases List.mem_cons.mp hmem' with heq | hrest'
      · exact (Prod.mk.inj heq).2.symm
      · exact absurd (hlater _ hrest') (String.lt_irrefl _)
    · rcases List.mem_cons.mp hmem' with rfl | hrest'
      · exact absurd (hlater _ hrest) (String.lt_irrefl _)
      · exact ih hordered hrest hrest'

theorem mem_of_find? (h : table.find? name = some value) : (name, value) ∈ table := by
  obtain ⟨⟨name', value'⟩, hfound, rfl⟩ := Option.map_eq_some_iff.mp h
  obtain rfl : name' = name := by simpa using List.find?_some hfound
  exact List.mem_of_find?_eq_some hfound

/-- What is in an ordered table is what is found in it. -/
theorem Ordered.find?_eq_some_iff (h : table.Ordered) :
    table.find? name = some value ↔ (name, value) ∈ table := by
  refine ⟨mem_of_find?, fun hmem => ?_⟩
  obtain ⟨entry, hentry⟩ : ∃ entry, List.find? (fun entry => entry.1 == name) table = some entry :=
    Option.isSome_iff_exists.mp (List.find?_isSome.mpr ⟨_, hmem, beq_self_eq_true name⟩)
  have hfound : table.find? name = some entry.2 := by rw [find?, hentry]; rfl
  rw [hfound, h.value_eq hmem (mem_of_find? hfound)]

end Table

/-! ### Values -/

namespace Json

variable {json value : Json} {chars rest : List Char} {name : String}

/-- The names of every object increase, at any depth. -/
inductive Ordered : Json → Prop where
  | null : Ordered .null
  | bool (value : Bool) : Ordered (.bool value)
  | whole (value : Int) : Ordered (.whole value)
  | float (value : Binary64) : Ordered (.float value)
  | text (value : String) : Ordered (.text value)
  | array {items : List Json} (hitems : ∀ item ∈ items, Ordered item) : Ordered (.array items)
  | object {members : Table Json} (hnames : members.Ordered)
      (hmembers : ∀ entry ∈ members, Ordered entry.2) : Ordered (.object members)

/-- The value is an object that has this member. -/
def HasMember (json : Json) (name : String) (value : Json) : Prop :=
  ∃ members, json = .object members ∧ (name, value) ∈ members

/-- Looking a member up is having it. -/
theorem Ordered.get?_eq_some_iff (h : json.Ordered) :
    json.get? name = some value ↔ json.HasMember name value := by
  cases h with
  | object hnames _ => simp [get?, HasMember, hnames.find?_eq_some_iff]
  | _ => simp [get?, HasMember]

theorem Ordered.get?_eq_none_iff (h : json.Ordered) :
    json.get? name = none ↔ ∀ value, ¬ json.HasMember name value := by
  simp [Option.eq_none_iff_forall_ne_some, h.get?_eq_some_iff]

theorem text?_eq_some_iff {text : String} : json.text? = some text ↔ json = .text text := by
  cases json <;> simp [text?]

/-! ### Reading -/

/-- A number. -/
inductive IsNumber : Json → Prop where
  | whole (value : Int) : IsNumber (.whole value)
  | float (value : Binary64) : IsNumber (.float value)

theorem IsNumber.ordered (h : json.IsNumber) : json.Ordered := by
  cases h with
  | whole value => exact .whole value
  | float value => exact .float value

theorem isNumber_of_float? {negative : Bool} {digits : Nat} {exponent : Int}
    (h : float? negative digits exponent = some value) : value.IsNumber := by
  unfold float? at h
  split at h
  · cases h; exact .float _
  · cases h

theorem isNumber_of_readExponent? {negative : Bool} {digits : Nat} {start : Int}
    (h : readExponent? negative digits start chars = some (value, rest)) : value.IsNumber := by
  unfold readExponent? at h
  dsimp only at h
  split at h
  · cases h
  · obtain ⟨number, hnumber, heq⟩ := Option.map_eq_some_iff.mp h
    cases heq
    split at hnumber
    · split at hnumber
      · cases hnumber
      · cases hnumber; exact .float _
    · exact isNumber_of_float? hnumber

theorem isNumber_of_finishFloat? {negative : Bool} {digits : Nat} {exponent : Int}
    (h : finishFloat? negative digits exponent chars = some (value, rest)) : value.IsNumber := by
  unfold finishFloat? at h
  split at h
  · split at h
    · exact isNumber_of_readExponent? h
    · obtain ⟨number, hnumber, heq⟩ := Option.map_eq_some_iff.mp h
      cases heq
      exact isNumber_of_float? hnumber
  · obtain ⟨number, hnumber, heq⟩ := Option.map_eq_some_iff.mp h
    cases heq
    exact isNumber_of_float? hnumber

theorem isNumber_of_readFraction? {negative : Bool} {digits : Nat} {exponent : Int}
    (h : readFraction? negative digits exponent chars = some (value, rest)) : value.IsNumber := by
  unfold readFraction? at h
  split at h
  · cases h
  · exact isNumber_of_finishFloat? h

theorem isNumber_wholeValue (negative : Bool) (digits : Nat) :
    (finishNumber?.wholeValue negative digits).IsNumber := by
  unfold finishNumber?.wholeValue
  split
  · exact .whole _
  · split
    · split
      · exact .float _
      · exact .whole _
    · exact .whole _

theorem isNumber_of_finishNumber? {negative : Bool} {digits : Nat}
    (h : finishNumber? negative digits chars = some (value, rest)) : value.IsNumber := by
  unfold finishNumber? at h
  split at h
  · exact isNumber_of_readFraction? h
  · split at h
    · exact isNumber_of_readExponent? h
    · cases h; exact isNumber_wholeValue _ _
  · cases h; exact isNumber_wholeValue _ _

theorem isNumber_of_readMagnitude? {negative : Bool}
    (h : readMagnitude? negative chars = some (value, rest)) : value.IsNumber := by
  unfold readMagnitude? at h
  split at h
  · split at h
    · exact isNumber_of_finishNumber? h
    · cases h
  · split at h
    · cases h
    · dsimp only at h
      split at h
      · exact isNumber_of_finishNumber? h
      · split at h
        · exact isNumber_of_readFraction? h
        · exact isNumber_of_finishFloat? h

theorem isNumber_of_readNumber? (h : readNumber? chars = some (value, rest)) :
    value.IsNumber := by
  unfold readNumber? at h
  split at h <;> exact isNumber_of_readMagnitude? h

theorem eq_of_readWord? {word : String} {meant : Json}
    (h : readWord? word meant chars = some (value, rest)) : value = meant := by
  unfold readWord? at h
  split at h
  · cases h; rfl
  · cases h

/-- With so many steps, whatever is read is ordered, also after items and members that are. -/
structure ReadsOrdered (fuel : Nat) : Prop where
  value : ∀ {depth chars value rest}, readValue? fuel depth chars = some (value, rest) →
    value.Ordered
  items : ∀ {depth done chars value rest}, (∀ item ∈ done, Ordered item) →
    readItems? fuel depth done chars = some (value, rest) → value.Ordered
  members : ∀ {depth} {done : Table Json} {chars value rest}, done.Ordered →
    (∀ entry ∈ done, Ordered entry.2) →
    readMembers? fuel depth done chars = some (value, rest) → value.Ordered

theorem ReadsOrdered.value_succ {fuel : Nat} (ih : ReadsOrdered fuel) {depth : Nat}
    (h : readValue? (fuel + 1) depth chars = some (value, rest)) : value.Ordered := by
  rw [readValue?] at h
  split at h
  · split at h
    · cases h
    · split at h
      · cases h; exact .array (by simp)
      · exact ih.items (by simp) h
  · split at h
    · cases h
    · split at h
      · cases h; exact .object .nil (by simp)
      · exact ih.members .nil (by simp) h
  · obtain ⟨read, -, heq⟩ := Option.map_eq_some_iff.mp h
    cases heq
    exact .text _
  · rw [eq_of_readWord? h]; exact .null
  · rw [eq_of_readWord? h]; exact .bool true
  · rw [eq_of_readWord? h]; exact .bool false
  · exact (isNumber_of_readNumber? h).ordered

theorem ReadsOrdered.items_succ {fuel : Nat} (ih : ReadsOrdered fuel) {depth : Nat}
    {done : List Json} (hdone : ∀ item ∈ done, Ordered item)
    (h : readItems? (fuel + 1) depth done chars = some (value, rest)) : value.Ordered := by
  rw [readItems?] at h
  split at h
  · cases h
  · next item _ hitem =>
    have hitems : ∀ held ∈ item :: done, Ordered held :=
      List.forall_mem_cons.mpr ⟨ih.value hitem, hdone⟩
    split at h
    · exact ih.items hitems h
    · cases h
      exact .array fun held hmem => hitems held (List.mem_reverse.mp hmem)
    · cases h

theorem ReadsOrdered.members_succ {fuel : Nat} (ih : ReadsOrdered fuel) {depth : Nat}
    {done : Table Json} (hnames : done.Ordered) (hdone : ∀ entry ∈ done, Ordered entry.2)
    (h : readMembers? (fuel + 1) depth done chars = some (value, rest)) : value.Ordered := by
  rw [readMembers?] at h
  split at h
  · split at h
    · cases h
    · next name _ _ =>
      split at h
      · split at h
        · cases h
        · next member _ hmember =>
          -- A name that was read before is put in its old place, with the new value.
          have hmembers : ∀ entry ∈ Table.insert name member done, Ordered entry.2 := by
            intro entry hmem
            rcases Table.mem_of_mem_insert hmem with rfl | hmem
            · exact ih.value hmember
            · exact hdone entry hmem
          dsimp only at h
          split at h
          · exact ih.members (hnames.insert name member) hmembers h
          · cases h; exact .object (hnames.insert name member) hmembers
          · cases h
      · cases h
  · cases h

theorem readsOrdered (fuel : Nat) : ReadsOrdered fuel := by
  induction fuel with
  | zero =>
    exact ⟨fun h => by simp [readValue?] at h, fun _ h => by simp [readItems?] at h,
      fun _ _ h => by simp [readMembers?] at h⟩
  | succ fuel ih => exact ⟨ih.value_succ, ih.items_succ, ih.members_succ⟩

/-- **What a text stands for is ordered.** Whatever members its objects have, and however often
and in which order they are written. -/
theorem ordered_of_parse? {text : String} (h : parse? text = some json) : json.Ordered := by
  unfold parse? at h
  dsimp only at h
  split at h
  · next value rest hread =>
    split at h
    · cases h; exact (readsOrdered _).value hread
    · cases h
  · cases h

end Json

end Testbed
