import GridClient.Attribute.Basic
import GridClient.Json.Reader
import GridClient.Request.Snapshot
import GridClient.Schema.Basic

/-!
# `GridClient.Schema.Object` — objects of the grid

## Contents
- `Object`: a kind, a reference, field values and attributes, with what a read of it asks for.
- `Object.objectType`: the type, which for networks follows the address family.
- `Object.toJson`: the fields that have values, in declared order, then the attributes.
- `Object.ofDocument?`, `Object.decode`: reading.
- `Object.snapshot`: the object as a request sees it.
-/

namespace GridClient

/-- An object: sent to the server, received from it, or a pattern to search by. -/
structure Object where
  schema : Schema
  /-- The reference that the server assigned; empty before that. -/
  reference : String := ""
  values : FieldValues := .none
  attributes : Attributes := ∅
  /-- The family of a network without a network value. -/
  ipv6 : Bool := false
  /-- The fields that a read asks for; if empty, those of the kind. -/
  returnFields : List String := []
  /-- Search criteria of a pattern. -/
  criteria : Criteria := ∅

namespace Object

instance : Inhabited Object := ⟨{ schema := .grid }⟩

/-- The object with the value of one field replaced. -/
def set (o : Object) (f : Field) (value : Option f.Value) : Object :=
  { o with values := o.values.set f value }

/-- The object with a value for one field. -/
def put (o : Object) (f : Field) (value : f.Value) : Object := o.set f (some value)

/-! ## Type -/

/-- Whether the object is one of version 6: by its network, or else by its flag. -/
def isV6 (o : Object) : Bool :=
  match o.values .network with
  | some (network : NetworkValue) => network.isV6
  | none => o.ipv6

/-- The name of the object's type. -/
def objectType (o : Object) : String :=
  if o.schema.hasFamily && o.isV6 then "ipv6" ++ o.schema.objectType else o.schema.objectType

/-- The fields that a read of the object asks for. -/
def effectiveReturnFields (o : Object) : List String :=
  if o.returnFields.isEmpty then o.schema.returnFields else o.returnFields

/-! ## Writing -/

/-- The members for the fields of a list that have values. -/
def fieldMembers (values : FieldValues) (fields : List Field) : Fields :=
  fields.filterMap fun f => (values f).map fun value => (f.wireName, f.kind.toJson value)

/-- The members of the JSON form. -/
def members (o : Object) : Fields :=
  fieldMembers o.values o.schema.writtenFields
    ++ (if o.schema.hasAttributes then [(Schema.attributesKey, Attributes.toJson o.attributes)]
        else [])

def toJson (o : Object) : Json := .object o.members

/-- The object as a request sees it. -/
def snapshot (o : Object) : Snapshot where
  objectType := o.objectType
  returnFields := o.effectiveReturnFields
  fields := o.members
  criteria := o.criteria

/-! ## Reading -/

/-- The given values with those of the fields of a list, as far as a document gives them. -/
def readFields? (members : Members) : List Field → FieldValues → Option FieldValues
  | [], values => some values
  | f :: fields, values => do
    let value ← members.optional? f.wireName f.kind.ofDocument?
    readFields? members fields (values.set f value)

/-- The object of a kind that a document holds, when it nests no deeper than `room`. -/
def ofDocument? (schema : Schema) (room : Nat) (d : Document) : Option Object := do
  let members ← schema.layout.members? d
  let reference ← members.orElse? Schema.referenceKey Document.toText? ""
  let values ← readFields? members schema.fields .none
  let attributes ←
    if schema.hasAttributes then
      members.orElse? Schema.attributesKey (Attributes.ofDocument? (room - 1)) ∅
    else some ∅
  some { schema, reference, values, attributes }

/-- The objects of a kind that a list holds, when it nests no deeper than `room`. -/
def listOfDocument? (schema : Schema) (room : Nat) (d : Document) : Option (List Object) :=
  d.listOf? (ofDocument? schema (room - 1))

/-- The object of a kind in a text. -/
def read? (schema : Schema) (text : Text.Octets) : Option Object :=
  Document.read text >>= ofDocument? schema nestingBound

/-- The list of objects of a kind in a text. -/
def readList? (schema : Schema) (text : Text.Octets) : Option (List Object) :=
  Document.read text >>= listOfDocument? schema nestingBound

/-- The object of a kind in a body; a failure names `context`. -/
def decode (schema : Schema) (context : String) (body : Text.Octets) : Checked Object :=
  match read? schema body with
  | some o => .ok o
  | none => .error (.decode context)

/-- The list of objects of a kind in a body; a failure names `context`. -/
def decodeList (schema : Schema) (context : String) (body : Text.Octets) :
    Checked (List Object) :=
  match readList? schema body with
  | some os => .ok os
  | none => .error (.decode context)

/-- The object with a reference, unless it has one. -/
def withReference (o : Object) (reference : String) : Object :=
  if o.reference = "" then { o with reference } else o

end Object
end GridClient
