import GridClient.Attribute.Basic

/-!
# `GridClient.Attribute.Criteria` — searching by extensible attribute

## Contents
- `Criteria`: the values to search for by attribute name.
- `Criteria.overlay`: two sets of criteria together.
- `Criteria.wireEntries`: the criteria as members of a request body.
- `Attributes.criteria`: criteria that the attributes themselves meet.
-/

namespace GridClient

/-- Values to search for by attribute name. -/
abbrev Criteria := NameMap String

namespace Criteria

/-- Both criteria together; those of `other` win. -/
def overlay (criteria other : Criteria) : Criteria := criteria.union other

/-- The key that a criterion for an attribute has in a body. -/
def wireKey (name : String) : String := "*" ++ name

/-- The criteria as members of a request body, in the order of the attribute names. -/
def wireEntries (criteria : Criteria) : List (String × String) :=
  criteria.entries.map fun e => (wireKey e.1, e.2)

/-- The criteria as fields of a request body. -/
def wireFields (criteria : Criteria) : Fields :=
  criteria.wireEntries.map fun e => (e.1, .string e.2)

def toJson (criteria : Criteria) : Json := .object criteria.wireFields

end Criteria

/-- The criteria that match exactly these attributes. -/
def Attributes.criteria (attributes : Attributes) : Criteria :=
  attributes.mapValues AttributeValue.searchText

end GridClient
