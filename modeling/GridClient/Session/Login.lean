import GridClient.Session.Verbs

/-!
# `GridClient.Session.Login` — the beginning of a session

## Contents
- `Login`: how it is checked that the server lets the account in.
- `Link.login`: the check, after which the session is active.
-/

namespace GridClient

/-- How it is checked that the server lets the account in. -/
inductive Login
  /-- By reading the account's own profile. -/
  | userProfile
  /-- Not at all. -/
  | skip
  deriving DecidableEq, Repr

def Login.name : Login → String
  | userProfile => "userprofile"
  | skip => "skip"

namespace Link

variable {σ : Type}

/-- The check itself. -/
def checkLogin (link : Link σ) : Login → Session σ Unit
  | .userProfile => do
    let profile : Snapshot := { objectType := "userprofile", returnFields := ["name"] }
    let _ ← link.request .get (some profile) "" {}
  | .skip => pure ()

/-- Checks the account and opens the session. -/
def login (link : Link σ) (how : Login) : Session σ Unit := do
  link.checkLogin how
  Session.enter .active

/-- A new session over a server's side: the world in which it is active, or why it is not, with
the world that the attempt left. -/
def connect (link : Link σ) (how : Login) (server : σ) : Except Error Unit × World σ :=
  (link.login how).runIn (World.start server)

end Link
end GridClient
