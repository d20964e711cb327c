import Testbed.Decimal.Binary64
import Testbed.Table

/-!
# JSON values

The members of an object are a table, so they have an order and each name stands once. A number
is whole if it is written without point and exponent and fits sixty-four bits, signed or not;
every other number is a floating-point number.

## Main definitions

* `Json` — values
* `Json.ofMembers` — an object from members in any order, the last of a name deciding
* `Json.get?`, `Json.text?`, `Json.items?`, `Json.members?` — what a value holds
* `Json.beq` — whether two values are the same

## Main results

* `Json.beq_iff` — this decides equality
-/

namespace Testbed

/-- A JSON value. -/
inductive Json where
  | null
  | bool (value : Bool)
  | whole (value : Int)
  | float (value : Binary64)
  | text (value : String)
  | array (items : List Json)
  | object (members : List (String × Json))
  deriving Inhabited

namespace Json

/-- The last of the members of a name counts, and the names are put in order. -/
def ofMembers (members : List (String × Json)) : Json :=
  .object (Table.ofEntries members)

/-- The member of a name, if the value is an object that has one. -/
def get? (name : String) : Json → Option Json
  | .object members => Table.find? name members
  | _ => none

/-- The text, if the value is one. -/
def text? : Json → Option String
  | .text value => some value
  | _ => none

/-- The items, if the value is an array. -/
def items? : Json → Option (List Json)
  | .array items => some items
  | _ => none

/-- The members, if the value is an object. -/
def members? : Json → Option (Table Json)
  | .object members => some members
  | _ => none

/-! ### Equality -/

mutual

/-- Whether two values are the same. -/
def beq : Json → Json → Bool
  | .null, .null => true
  | .bool value, .bool value' => value == value'
  | .whole value, .whole value' => value == value'
  | .float value, .float value' => value == value'
  | .text value, .text value' => value == value'
  | .array items, .array items' => beqItems items items'
  | .object members, .object members' => beqMembers members members'
  | _, _ => false

/-- Whether two lists have the same items. -/
def beqItems : List Json → List Json → Bool
  | [], [] => true
  | item :: rest, item' :: rest' => beq item item' && beqItems rest rest'
  | _, _ => false

/-- Whether two lists have the same members. -/
def beqMembers : List (String × Json) → List (String × Json) → Bool
  | [], [] => true
  | (name, value) :: rest, (name', value') :: rest' =>
    name == name' && beq value value' && beqMembers rest rest'
  | _, _ => false

end

mutual

/-- Two values are the same just if they are found to be. -/
theorem beq_iff (value value' : Json) : beq value value' = true ↔ value = value' := by
  cases value with
  | array items =>
    cases value' with
    | array items' => simp [beq, beqItems_iff items items']
    | _ => simp [beq]
  | object members =>
    cases value' with
    | object members' => simp [beq, beqMembers_iff members members']
    | _ => simp [beq]
  | _ => cases value' <;> simp [beq]

theorem beqItems_iff (items items' : List Json) : beqItems items items' = true ↔ items = items' := by
  cases items with
  | nil => cases items' <;> simp [beqItems]
  | cons item rest =>
    cases items' with
    | nil => simp [beqItems]
    | cons item' rest' => simp [beqItems, beq_iff item item', beqItems_iff rest rest']

theorem beqMembers_iff (members members' : List (String × Json)) :
    beqMembers members members' = true ↔ members = members' := by
  cases members with
  | nil => cases members' <;> simp [beqMembers]
  | cons member rest =>
    obtain ⟨name, value⟩ := member
    cases members' with
    | nil => simp [beqMembers]
    | cons member' rest' =>
      obtain ⟨name', value'⟩ := member'
      simp [beqMembers, beq_iff value value', beqMembers_iff rest rest']

end

instance : DecidableEq Json :=
  fun value value' => decidable_of_iff _ (beq_iff value value')

end Json

end Testbed
