import GridClient.Session.Verbs

/-!
# `GridClient.Session.Generic` — the verbs for objects of any type

All that a verb knows of an object is how it is presented to the server and how it is read. The
kinds that the grid holds are one case. A type of the caller's own is another, and its objects need
not even have a JSON object for their form: such an object is refused before anything is sent.

## Contents
- `Codec`: how the objects of a type are presented and read.
- `Link.createAs`, `readAs`, `listAs`, `updateAs`: the verbs for a type.
- `Call`, `Call.run`: a verb for any type with its arguments, as data.
- `Object.codec`, `Verb.call`: the kinds of the grid; `Verb.run_eq`: their verbs are calls.
-/

namespace GridClient

open Text (Octets)

/-! ## Types of objects -/

/-- How the objects of a type are presented to the server and read. -/
structure Codec (α : Type) where
  objectType : α → String
  /-- The fields that a read asks for. -/
  returnFields : α → List String
  /-- The JSON form, unless the object has none. -/
  toJson? : α → Option Json
  criteria : α → Criteria
  reference : α → String
  setReference : α → String → α
  read? : Octets → Option α
  readList? : Octets → Option (List α)

namespace Codec

variable {α : Type}

/-- The object as a request sees it. -/
def snapshot (c : Codec α) (a : α) : Checked Snapshot :=
  match c.toJson? a with
  | some form => Snapshot.ofJson (c.objectType a) (c.returnFields a) form (c.criteria a)
  | none => .error .json

/-- The object in a body; a failure names `context`. -/
def decode (c : Codec α) (context : String) (body : Octets) : Checked α :=
  match c.read? body with
  | some a => .ok a
  | none => .error (.decode context)

/-- The list of objects in a body; a failure names `context`. -/
def decodeList (c : Codec α) (context : String) (body : Octets) : Checked (List α) :=
  match c.readList? body with
  | some as => .ok as
  | none => .error (.decode context)

/-- The object with a reference, unless it has one. -/
def withReference (c : Codec α) (a : α) (reference : String) : α :=
  if c.reference a = "" then c.setReference a reference else a

end Codec

/-! ## Verbs -/

namespace Link

variable {σ α : Type}

/-- Creates an object; the answer is its reference. -/
def createAs (link : Link σ) (c : Codec α) (a : α) : Session σ String := do
  let snapshot ← Session.lift (c.snapshot a)
  let body ← link.exchange .create (some snapshot) "" {} (c.objectType a)
  Session.lift (decodeText "reference returned by create" body)

/-- Reads the object with a reference; the template's values are not sent. -/
def readAs (link : Link σ) (c : Codec α) (template : α) (reference : String) (query : Query) :
    Session σ α := do
  if reference = "" then
    throw (.validation (.referenceToRead (c.objectType template)))
  let snapshot ← Session.lift (c.snapshot template)
  let body ← link.exchange .get (some snapshot) reference query reference
  let a ← Session.lift (c.decode (c.objectType template) body)
  return c.withReference a reference

/-- Reads all objects that agree with a pattern and meet the criteria. -/
def listAs (link : Link σ) (c : Codec α) (pattern : α) (query : Query) : Session σ (List α) := do
  let snapshot ← Session.lift (c.snapshot pattern)
  let body ← link.exchange .get (some snapshot) "" query (c.objectType pattern)
  Session.lift (c.decodeList ("list of " ++ c.objectType pattern) body)

/-- Writes the fields of an object to the one with a reference; the answer is its new reference. -/
def updateAs (link : Link σ) (c : Codec α) (a : α) (reference : String) : Session σ String := do
  if reference = "" then
    throw (.validation (.referenceToUpdate (c.objectType a)))
  let snapshot ← Session.lift (c.snapshot a)
  let body ← link.exchange .update (some snapshot) reference {} reference
  Session.lift (decodeText "reference returned by update" body)

end Link

/-! ## Calls as data -/

/-- A verb with its arguments, for objects of a type. -/
inductive Call (α : Type)
  | create (c : Codec α) (a : α)
  | read (c : Codec α) (template : α) (reference : String) (query : Query)
  | list (c : Codec α) (pattern : α) (query : Query)
  | update (c : Codec α) (a : α) (reference : String)
  | delete (reference : String)
  | request (operation : Operation) (object : Option Snapshot) (reference : String) (query : Query)
  | readNamed (registry : Registry α) (reference : String) (query : Query)
  | logout

/-- What is answered to a call. -/
inductive Answer (α : Type)
  | reference (text : String)
  | object (a : α)
  | objects (as : List α)
  | body (octets : Octets)
  | done

/-- Does what a call says. -/
def Call.run {σ α : Type} (link : Link σ) : Call α → Session σ (Answer α)
  | create c a => .reference <$> link.createAs c a
  | read c template reference query => .object <$> link.readAs c template reference query
  | list c pattern query => .objects <$> link.listAs c pattern query
  | update c a reference => .reference <$> link.updateAs c a reference
  | delete reference => .reference <$> link.delete reference
  | request operation object reference query =>
    .body <$> link.request operation object reference query
  | readNamed registry reference query => .object <$> link.readNamed registry reference query
  | logout => (fun _ => .done) <$> link.logout

/-! ## The kinds of the grid -/

/-- The codec of the objects of a kind. -/
def Object.codec (schema : Schema) : Codec Object where
  objectType := Object.objectType
  returnFields := Object.effectiveReturnFields
  toJson? o := some o.toJson
  criteria := Object.criteria
  reference := Object.reference
  setReference o reference := { o with reference }
  read? := Object.read? schema
  readList? := Object.readList? schema

/-- A verb for the kinds of the grid as a call. -/
def Verb.call : Verb → Call Object
  | create o => .create (Object.codec o.schema) o
  | read template reference query =>
    .read (Object.codec template.schema) template reference query
  | list pattern query => .list (Object.codec pattern.schema) pattern query
  | update o reference => .update (Object.codec o.schema) o reference
  | delete reference => .delete reference
  | request operation object reference query => .request operation object reference query
  | readNamed registry reference query => .readNamed registry reference query
  | logout => .logout

/-- An answer about the kinds of the grid. -/
def Answer.reply : Answer Object → Reply
  | reference text => .reference text
  | object o => .object o
  | objects os => .objects os
  | body octets => .body octets
  | done => .done

namespace Object

theorem decode_codec (schema : Schema) :
    (codec schema).decode = Object.decode schema := by
  funext context body
  have hread : (codec schema).read? body = read? schema body := rfl
  unfold Codec.decode Object.decode
  rw [hread]
  cases read? schema body <;> rfl

theorem decodeList_codec (schema : Schema) :
    (codec schema).decodeList = Object.decodeList schema := by
  funext context body
  have hread : (codec schema).readList? body = readList? schema body := rfl
  unfold Codec.decodeList Object.decodeList
  rw [hread]
  cases readList? schema body <;> rfl

end Object

namespace Link

variable {σ : Type} (link : Link σ)

/-! A codec of the grid gives every object a JSON object for its form, so nothing is refused. -/

theorem createAs_codec (schema : Schema) (o : Object) :
    link.createAs (Object.codec schema) o = link.create o := rfl

theorem readAs_codec (template : Object) (reference : String) (query : Query) :
    link.readAs (Object.codec template.schema) template reference query
      = link.read template reference query := by
  unfold readAs read
  rw [Object.decode_codec]
  rfl

theorem listAs_codec (pattern : Object) (query : Query) :
    link.listAs (Object.codec pattern.schema) pattern query = link.list pattern query := by
  unfold listAs list
  rw [Object.decodeList_codec]
  rfl

theorem updateAs_codec (schema : Schema) (o : Object) (reference : String) :
    link.updateAs (Object.codec schema) o reference = link.update o reference := rfl

end Link

/-- **The verbs for the kinds of the grid are calls.** -/
theorem Verb.run_eq {σ : Type} (link : Link σ) (v : Verb) :
    v.run link = Answer.reply <$> v.call.run link := by
  have hmap : ∀ {β : Type} (g : β → Answer Object) (x : Session σ β),
      Answer.reply <$> g <$> x = (fun b => (g b).reply) <$> x :=
    fun g x => Functor.map_map g Answer.reply x
  cases v <;> unfold call run Call.run <;> rw [hmap]
  case read => rw [link.readAs_codec]; rfl
  case list => rw [link.listAs_codec]; rfl
  all_goals rfl

end GridClient
