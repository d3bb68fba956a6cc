import GridClient.Reference

/-!
# `GridClient.Allocation.Assigned` — what the server chose

After an allocation the value stands in the display path of the new object's reference, as
`value/view`.

## Contents
- `Assigned`, `Assigned.ofReference`: value and view, read from a reference.
-/

namespace GridClient

/-- A value that the server chose, and the network view in which it lies. -/
structure Assigned where
  value : String
  view : String
  deriving DecidableEq

/-- The value and view in a reference's display path. -/
def Assigned.ofReference (reference : String) : Checked Assigned := do
  let parsed ← Reference.parse reference
  match parsed.displayParts? with
  | none => refuse (.nothingAllocated reference)
  | some (value, view) =>
    if value = "" then refuse (.emptyAllocated reference) else .ok ⟨value, view⟩

end GridClient
