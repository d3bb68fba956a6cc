import GridClient.Required
import GridClient.Session.Verbs

/-!
# `GridClient.Provision.Basic` — the rules above a session

## Contents
- `Owner`: the attributes that mark what a cloud platform owns.
- `Provisioner`: a link with the rules for all that goes through it.
- `Provisioner.read`, `deleteAny`: an object by its reference.
- `Schema.typeToDelete`, `Provisioner.delete`: deletion of objects of one kind.
-/

namespace GridClient

/-- The cloud platform and tenant that own what is created. -/
structure Owner where
  platform : String
  tenant : String
  deriving DecidableEq

namespace Owner

/-- The name of the attribute for the platform. -/
def platformName : String := "CMP Type"

/-- The name of the attribute for the tenant. -/
def tenantName : String := "Tenant ID"

/-- The name of the attribute that marks ownership. -/
def ownedName : String := "Cloud API Owned"

/-- The attributes with the mark of ownership, in place of any that they bear. -/
def stamp (o : Owner) (attributes : Attributes) : Attributes :=
  ((attributes.insert platformName (.text o.platform)).insert tenantName (.text o.tenant)).insert
    ownedName (.bool true)

end Owner

/-- The type of which a reference has to be, so that an object of a kind can be deleted by it: of a
kind of either family, that of version 6 where the reference begins with its name. -/
def Schema.typeToDelete (s : Schema) (reference : String) : String :=
  let ipv6 := "ipv6" ++ s.objectType
  if s.hasFamily && (Text.dropStart? (ipv6 ++ "/") reference).isSome then ipv6 else s.objectType

/-- A link with the rules for all that goes through it. -/
structure Provisioner (σ : Type) where
  link : Link σ
  /-- Who owns what is created. -/
  owner : Option Owner := none
  /-- Whether every read is handed on to the grid master. -/
  forceProxy : Bool := false

namespace Provisioner

variable {σ : Type}

/-- The parameters of every read. -/
def readQuery (p : Provisioner σ) : Query := Query.proxied p.forceProxy

/-- The attributes with the mark of the owner, if there is one. -/
def ownedAttributes (p : Provisioner σ) (attributes : Attributes) : Attributes :=
  match p.owner with
  | some owner => owner.stamp attributes
  | none => attributes

/-- Reads the object of a kind with a reference. -/
def read (p : Provisioner σ) (schema : Schema) (reference : String) : Session σ Object := do
  Session.lift (require "reference" reference)
  p.link.read { schema } reference p.readQuery

/-- Deletes the object with a reference, whatever its kind. -/
def deleteAny (p : Provisioner σ) (reference : String) : Session σ String := do
  Session.lift (require "reference" reference)
  p.link.delete reference

/-- Deletes the object with a reference, which has to be of the given type. -/
def deleteTyped (p : Provisioner σ) (reference objectType : String) : Session σ String := do
  Session.lift (require "reference" reference)
  if objectTypeOf? reference = some objectType then p.link.delete reference
  else throw (.validation (.wrongType reference objectType))

/-- Deletes the object with a reference, which has to be of a type of the given kind. -/
def delete (p : Provisioner σ) (schema : Schema) (reference : String) : Session σ String :=
  p.deleteTyped reference (schema.typeToDelete reference)

end Provisioner
end GridClient
