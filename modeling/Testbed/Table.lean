/-!
# Tables

Values under names, in the order of the names, each name once. `Table.insert` keeps a table so.

## Main definitions

* `Table` — named values
* `Table.insert`, `Table.erase`, `Table.find?`

## Main results

* `Table.find?_insert_self` — a value put in is found
-/

namespace Testbed

/-- Values under names. -/
abbrev Table (α : Type) := List (String × α)

namespace Table

variable {α : Type}

/-- Puts a value under a name, instead of an earlier one, in the order of the names. -/
def insert (name : String) (value : α) : Table α → Table α
  | [] => [(name, value)]
  | (other, held) :: rest =>
    if name = other then (name, value) :: rest
    else if name < other then (name, value) :: (other, held) :: rest
    else (other, held) :: insert name value rest

/-- Takes out what is under a name. -/
def erase (name : String) (table : Table α) : Table α :=
  table.filter fun entry => entry.1 ≠ name

/-- The value under a name. -/
def find? (name : String) (table : Table α) : Option α :=
  (List.find? (fun entry => entry.1 == name) table).map Prod.snd

/-- A table of entries in any order, the last of a name deciding. -/
def ofEntries (entries : List (String × α)) : Table α :=
  entries.foldl (fun table entry => insert entry.1 entry.2 table) []

theorem find?_insert_self (name : String) (value : α) (table : Table α) :
    find? name (insert name value table) = some value := by
  induction table with
  | nil => simp [insert, find?]
  | cons entry rest ih =>
    obtain ⟨other, held⟩ := entry
    simp only [insert]
    split
    · simp [find?]
    · rename_i h
      split
      · simp [find?]
      · have h' : ¬ other = name := fun e => h e.symm
        simpa [find?, h'] using ih

end Table

end Testbed
