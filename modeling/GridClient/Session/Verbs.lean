import GridClient.Registry
import GridClient.Session.Basic

/-!
# `GridClient.Session.Verbs` — what can be done in a session

Every verb sends at most one request, and nothing is tried again.

## Contents
- `Link.create`, `read`, `list`, `update`, `delete`: objects of a known kind.
- `Link.readNamed`: an object whose kind is found by its reference.
- `Link.request`: a request as it is, with the body of its answer.
- `Link.logout`: the end of the session.
- `Verb`, `Verb.run`: a verb with its arguments, as data.
-/

namespace GridClient

/-- The JSON string that a body holds. -/
def decodeText (context : String) (body : Text.Octets) : Checked String :=
  match Document.read body >>= Document.toText? with
  | some s => .ok s
  | none => .error (.decode context)

namespace Link

variable {σ : Type}

/-! ## Objects of a known kind -/

/-- Creates an object; the answer is its reference. -/
def create (link : Link σ) (o : Object) : Session σ String := do
  let body ← link.exchange .create (some o.snapshot) "" {} o.objectType
  Session.lift (decodeText "reference returned by create" body)

/-- Reads the object with a reference. The template gives kind and fields to return; its values
are not sent. -/
def read (link : Link σ) (template : Object) (reference : String) (query : Query) :
    Session σ Object := do
  if reference = "" then
    throw (.validation (.referenceToRead template.objectType))
  let body ← link.exchange .get (some template.snapshot) reference query reference
  let o ← Session.lift (Object.decode template.schema template.objectType body)
  return o.withReference reference

/-- Reads all objects that agree with a pattern and meet the criteria. -/
def list (link : Link σ) (pattern : Object) (query : Query) : Session σ (List Object) := do
  let body ← link.exchange .get (some pattern.snapshot) "" query pattern.objectType
  Session.lift (Object.decodeList pattern.schema ("list of " ++ pattern.objectType) body)

/-- Writes the fields of an object to the one with a reference; the answer is its new reference. -/
def update (link : Link σ) (o : Object) (reference : String) : Session σ String := do
  if reference = "" then
    throw (.validation (.referenceToUpdate o.objectType))
  let body ← link.exchange .update (some o.snapshot) reference {} reference
  Session.lift (decodeText "reference returned by update" body)

/-- Deletes the object with a reference; the answer is that reference. -/
def delete (link : Link σ) (reference : String) : Session σ String := do
  if reference = "" then
    throw (.validation .referenceToDelete)
  let body ← link.exchange .delete none reference {} reference
  Session.lift (decodeText "reference returned by delete" body)

/-! ## Other requests -/

/-- A request as it is; the answer is the body. -/
def request (link : Link σ) (operation : Operation) (object : Option Snapshot)
    (reference : String) (query : Query) : Session σ Text.Octets :=
  link.exchange operation object reference query
    (if reference = "" then (object.map Snapshot.objectType).getD "" else reference)

/-- Reads the object with a reference, its kind looked up by the type that the reference names. -/
def readNamed {α : Type} (link : Link σ) (registry : Registry α) (reference : String)
    (query : Query) : Session σ α := do
  let entry ← Session.lift (registry.entryFor reference)
  let body ← link.exchange .get (some entry.snapshot) reference query reference
  Session.lift (entry.decode body)

/-- Ends the session, whatever the server answers. -/
def logout (link : Link σ) : Session σ Unit := do
  Session.ensureOpen
  Session.enter .closed
  let response ← link.send
    (link.endpoint.request .create (some (Snapshot.ofType "logout")) "" {})
  let _ ← Session.lift (response.check "logout")

/-- The session for diagnosis. -/
def describe (link : Link σ) (phase : Phase) : String :=
  Text.record "Connector"
    [("requestor", Text.quote link.transport.name), ("state", phase.name)]

end Link

/-! ## Verbs as data -/

/-- A verb with its arguments. -/
inductive Verb
  | create (o : Object)
  | read (template : Object) (reference : String) (query : Query)
  | list (pattern : Object) (query : Query)
  | update (o : Object) (reference : String)
  | delete (reference : String)
  | request (operation : Operation) (object : Option Snapshot) (reference : String) (query : Query)
  | readNamed (registry : Registry Object) (reference : String) (query : Query)
  | logout

/-- What is answered in a session. -/
inductive Reply
  | reference (text : String)
  | object (o : Object)
  | objects (os : List Object)
  | found (o : Option Object)
  | body (octets : Text.Octets)
  | done

/-- Does what a verb says. -/
def Verb.run {σ : Type} (link : Link σ) : Verb → Session σ Reply
  | create o => .reference <$> link.create o
  | read template reference query => .object <$> link.read template reference query
  | list pattern query => .objects <$> link.list pattern query
  | update o reference => .reference <$> link.update o reference
  | delete reference => .reference <$> link.delete reference
  | request operation object reference query =>
    .body <$> link.request operation object reference query
  | readNamed registry reference query => .object <$> link.readNamed registry reference query
  | logout => (fun _ => .done) <$> link.logout

end GridClient
