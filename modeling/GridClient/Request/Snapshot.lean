import GridClient.Attribute.Criteria
import GridClient.Error

/-!
# `GridClient.Request.Snapshot` — an object as a request sees it

## Contents
- `Snapshot`: type, fields to return, body fields and search criteria.
- `Snapshot.ofJson`: the snapshot of anything with a JSON form; only JSON objects have one.
-/

namespace GridClient

/-- What a request needs to know of an object. -/
structure Snapshot where
  objectType : String
  returnFields : List String := []
  fields : Fields := []
  criteria : Criteria := ∅

namespace Snapshot

/-- A snapshot that has a type and nothing else. -/
def ofType (objectType : String) : Snapshot := { objectType }

/-- The snapshot of an object with the given JSON form. -/
def ofJson (objectType : String) (returnFields : List String) (form : Json)
    (criteria : Criteria) : Checked Snapshot :=
  match form with
  | .object fields => .ok { objectType, returnFields, fields, criteria }
  | other => .error (.notAnObject objectType other.text)

end Snapshot
end GridClient
