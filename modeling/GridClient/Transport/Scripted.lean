import GridClient.Session.Basic

/-!
# `GridClient.Transport.Scripted` — answers known beforehand

## Contents
- `Transport.scripted`: answers each request with the next of a list, and with a failure when none
  is left.
-/

namespace GridClient

/-- Each request takes the next answer of a list, whatever it asks for. -/
def Transport.scripted : Transport (List (Checked Response)) where
  name := "scripted"
  exchange := fun _ answers =>
    match answers with
    | [] => (.error (.transport "no scripted response left"), [])
    | answer :: rest => (answer, rest)

end GridClient
