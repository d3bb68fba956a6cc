import GridClient.Provision.Release
import GridClient.Provision.Update

/-!
# `GridClient.Provision.Task` — what a provisioner does, as data

What holds of every operation is a statement about every task.

## Contents
- `Task`: an operation with its arguments; `Lookup.task`: the one for a look-up.
- `Task.run`: doing it in a session.
-/

namespace GridClient

/-- An operation of a provisioner with its arguments. -/
inductive Task
  | create (c : Creation) (attributes : Attributes)
  | read (schema : Schema) (reference : String)
  /-- Finds an object that has to be there. -/
  | find (l : Lookup)
  /-- Finds an object that may be missing. -/
  | findIfAny (l : Lookup)
  | members (hostName : Option String)
  | update (u : Update) (reference : String) (change : AttributeChange)
  | delete (schema : Schema) (reference : String)
  | deleteAny (reference : String)
  | release (view ip : String) (mac : Option String)

/-- The task of a look-up. -/
def Lookup.task (l : Lookup) : Task := if l.mayBeMissing then .findIfAny l else .find l

/-- Does what a task says. -/
def Task.run {σ : Type} (p : Provisioner σ) : Task → Session σ Reply
  | create c attributes => .object <$> p.create c attributes
  | read schema reference => .object <$> p.read schema reference
  | find l => .object <$> p.find l
  | findIfAny l => .found <$> p.find? l
  | members hostName => .objects <$> p.members hostName
  | update u reference change => .reference <$> p.update u reference change
  | delete schema reference => .reference <$> p.delete schema reference
  | deleteAny reference => .reference <$> p.deleteAny reference
  | release view ip mac => .reference <$> p.release view ip mac

end GridClient
