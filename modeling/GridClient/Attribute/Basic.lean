import GridClient.Attribute.Value
import GridClient.NameMap

/-!
# `GridClient.Attribute.Basic` — extensible attributes of an object

## Contents
- `Attributes`: the attributes by name, with `merge`.
- `Attributes.toJson`, `Attributes.ofDocument?`: each value is wrapped as the member `value` of an
  object of its own.
-/

namespace GridClient

/-- The extensible attributes of an object. -/
abbrev Attributes := NameMap AttributeValue

namespace Attributes

/-- The attributes with those of `add`, which win, and without those named in `remove`. -/
def merge (current add : Attributes) (remove : List String) : Attributes :=
  (current.union add).without remove

/-- Removal wins over addition, addition over what was there. -/
theorem get?_merge (current add : Attributes) (remove : List String) (name : String) :
    (current.merge add remove).get? name
      = if name ∈ remove then none else (add.get? name).or (current.get? name) := by
  simp [merge, NameMap.get?_without]

/-- The attributes as they are read back after writing. -/
def written (attributes : Attributes) : Attributes := attributes.mapValues AttributeValue.written

/-! ## JSON form -/

/-- The record around each value. -/
def wrapper : Layout := ⟨["value"], 1⟩

/-- A value in its record. -/
def wrap (value : AttributeValue) : Json := .object [("value", value.toJson)]

def toJson (attributes : Attributes) : Json :=
  .object (attributes.entries.map fun e => (e.1, wrap e.2))

/-- The value in a record, when its lists nest no deeper than `room`. -/
def unwrap? (room : Nat) (d : Document) : Option AttributeValue := do
  let members ← wrapper.members? d
  members.required? "value" (AttributeValue.ofDocument? room)

/-- The attributes after the given ones, with those that members give. -/
def addMembers? (room : Nat) :
    List (Option String × Document) → Attributes → Option Attributes
  | [], attributes => some attributes
  | (name, d) :: rest, attributes => do
    let name ← name
    let value ← unwrap? room d
    addMembers? room rest (attributes.insert name value)

/-- The attributes that a document holds, when it nests no deeper than `room`; `null` holds none.
Of attributes with one name the last counts. -/
def ofDocument? (room : Nat) : Document → Option Attributes
  | .null => some ∅
  | .object members => addMembers? (room - 2) members ∅
  | _ => none

end Attributes

/-- Arrays and objects nest no deeper than this in the parts of a document that are used. -/
def nestingBound : Nat := 127

end GridClient
