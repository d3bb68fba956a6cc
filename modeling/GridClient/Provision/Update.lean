import GridClient.Provision.Lookup

/-!
# `GridClient.Provision.Update` — changing objects

The fields to change are checked before any request. Attributes that are to be kept or merged are
read first, so that a change of some never loses others.

## Contents
- `AttributeChange`, `AttributeChange.apply`: what becomes of the attributes.
- `Update`, `Update.draft`: the fields to change.
- `Provisioner.update`: the whole.
-/

namespace GridClient

/-! ## Attributes -/

/-- What becomes of an object's attributes. -/
inductive AttributeChange
  | keep
  | replace (attributes : Attributes)
  | merge (add : Attributes) (remove : List String)

namespace AttributeChange

/-- The new attributes, from those that the object has. -/
def apply : AttributeChange → Attributes → Attributes
  | keep, current => current
  | replace attributes, _ => attributes
  | merge add remove, current => Attributes.merge current add remove

/-- Whether the new attributes depend on those that the object has. -/
def needsCurrent : AttributeChange → Bool
  | replace _ => false
  | _ => true

end AttributeChange

/-! ## Fields -/

/-- The fields to change, by kind of object; a missing argument leaves its field alone. -/
inductive Update
  | networkView (comment : Option String)
  | network (comment : Option String)
  | fixedAddress (mac name : Option String)
  | recordA (name ip : Option String) (ttl : Option UInt32)
  | recordAaaa (name ip : Option String) (ttl : Option UInt32)
  | recordPtr (pointerName : Option String) (ttl : Option UInt32)
  | recordCname (canonical aliasName : Option String) (ttl : Option UInt32)
  | recordMx (mailExchanger : Option String) (preference ttl : Option UInt32)
  | recordTxt (text : Option String) (ttl : Option UInt32)

namespace Update

/-- The kind of object that is changed. -/
def schema : Update → Schema
  | networkView _ => .networkView
  | network _ => .network
  | fixedAddress .. => .fixedAddress
  | recordA .. => .recordA
  | recordAaaa .. => .recordAaaa
  | recordPtr .. => .recordPtr
  | recordCname .. => .recordCname
  | recordMx .. => .recordMx
  | recordTxt .. => .recordTxt

/-- An object with the fields to change, if the arguments pass their checks. -/
def draft (u : Update) : Checked Object :=
  let empty : Object := { schema := u.schema }
  match u with
  | networkView comment | network comment => .ok (empty.set .comment comment)
  | fixedAddress mac name => do
    checkGiven checkMac mac
    return (empty.set .mac mac).set .name name
  | recordA name ip ttl => do
    checkGiven (checkAddress · .v4) ip
    return ((empty.set .ipv4Address (ip.map AddressValue.literal)).set .name name).withTtl ttl
  | recordAaaa name ip ttl => do
    checkGiven (checkAddress · .v6) ip
    return ((empty.set .ipv6Address (ip.map AddressValue.literal)).set .name name).withTtl ttl
  | recordPtr pointerName ttl => .ok ((empty.set .pointerName pointerName).withTtl ttl)
  | recordCname canonical aliasName ttl =>
    .ok (((empty.set .canonical canonical).set .name aliasName).withTtl ttl)
  | recordMx mailExchanger preference ttl =>
    .ok (((empty.set .mailExchanger mailExchanger).set .preference preference).withTtl ttl)
  | recordTxt text ttl => .ok ((empty.set .text text).withTtl ttl)

end Update

/-! ## Updating -/

namespace Provisioner

variable {σ : Type}

/-- The attributes that an object is to have. -/
def resolve (p : Provisioner σ) (schema : Schema) (reference : String) (change : AttributeChange) :
    Session σ Attributes := do
  if change.needsCurrent then
    let current ← p.read schema reference
    return change.apply current.attributes
  else return change.apply ∅

/-- Changes the object with a reference; the answer is its new reference. -/
def update (p : Provisioner σ) (u : Update) (reference : String) (change : AttributeChange) :
    Session σ String := do
  Session.lift (require "reference" reference)
  let draft ← Session.lift u.draft
  let attributes ← p.resolve u.schema reference change
  p.link.update { draft with attributes } reference

end Provisioner
end GridClient
