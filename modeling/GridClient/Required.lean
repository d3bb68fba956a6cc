import GridClient.Error
import GridClient.Text.Blank

/-!
# `GridClient.Required` — arguments that must not be blank

## Contents
- `require`: one argument that must hold more than white space.
- `requireAll`: the arguments of a look-up, the missing ones named together.
-/

namespace GridClient

/-- Refuses a field that holds nothing but white space. -/
def require (field value : String) : Checked Unit :=
  if Text.isBlankText value then refuse (.required field) else .ok ()

/-- Refuses a look-up that lacks any of the fields by which it looks. -/
def requireAll (what : String) (fields : List (String × String)) : Checked Unit :=
  let missing := fields.filter fun field => Text.isBlankText field.2
  if missing.isEmpty then .ok ()
  else refuse (.lookupIncomplete what (fields.map Prod.fst) (missing.map Prod.fst))

end GridClient
