import GridClient.Address.Mac
import GridClient.Allocation.Assigned
import GridClient.Provision.Arguments
import GridClient.Provision.Basic

/-!
# `GridClient.Provision.Creation` — creating objects

What to create is data. A draft is checked and made without any request; it is stamped with the
owner's attributes, sent once, and then settled: what the server chose is filled in.

## Contents
- `Creation`: what to create; `Creation.draft`: the object to send.
- `Object.choice`: what the server has to choose, and how the choice is found out.
- `Provisioner.create`: the whole.
-/

namespace GridClient

/-! ## Drafts -/

/-- A definition of an extensible attribute. -/
structure AttributeDefinition where
  name : Option String := none
  valueType : Option String := none
  comment : Option String := none
  flags : Option String := none
  /-- The values allowed, where they are enumerated. -/
  choices : Option (List Choice) := none

/-- What to create, with the arguments as they are given. -/
inductive Creation
  | networkView (name : String) (comment : Option String)
  | network (view cidr : String) (family : Family) (comment : Option String)
  | nextNetwork (view container : String) (length : UInt8) (family : Family)
    (comment : Option String)
  | networkContainer (view cidr : String) (family : Family) (comment : Option String)
  | nextNetworkContainer (view parent : String) (length : UInt8) (family : Family)
    (comment : Option String)
  | fixedAddress (view cidr : String) (ip mac name : Option String)
  | ipv6FixedAddress (view cidr : String) (ip : Option String) (duid : String)
    (name : Option String)
  | recordA (view name : String) (address : AddressValue) (ttl : Option UInt32)
  | recordAaaa (view name : String) (address : AddressValue) (ttl : Option UInt32)
  | recordPtr (view pointerName : String) (address : AddressValue) (ttl : Option UInt32)
  | recordCname (view canonical aliasName : String) (ttl : Option UInt32)
  | recordMx (view name mailExchanger : String) (preference : UInt32) (ttl : Option UInt32)
  | recordTxt (view name text : String) (ttl : Option UInt32)
  | zoneAuth (view fqdn : String)
  | attributeDefinition (definition : AttributeDefinition)

/-- The definition as an object. -/
def AttributeDefinition.object (d : AttributeDefinition) : Object :=
  ((((({ schema := .attributeDefinition } : Object).set .name d.name).set .valueType
    d.valueType).set .comment d.comment).set .flags d.flags).set .listValues d.choices

namespace Object

/-- The object with a time to live, which is used exactly when there is one. -/
def withTtl (o : Object) (ttl : Option UInt32) : Object :=
  (o.set .useTtl (ttl.map fun _ => true)).set .ttl ttl

/-- An empty record of a kind in a view. -/
def recordIn (schema : Schema) (view : String) : Object :=
  ({ schema } : Object).put .view view

/-- A network or container of a family, in a view. -/
def networkIn (schema : Schema) (view : String) (network : NetworkValue) (family : Family)
    (comment : Option String) : Object :=
  ((({ schema, ipv6 := family.isV6 } : Object).put .networkView view).put .network network).set
    .comment comment

end Object

/-- Checks that a container can give a network of a length. -/
def checkSubnet (view container : String) (length : UInt8) (family : Family) : Checked Unit := do
  let _ ← checkNetworkIn view container family
  checkLength length family

/-- The object to send, without attributes, if the arguments pass their checks. -/
def Creation.draft : Creation → Checked Object
  | networkView name comment => do
    require "network view name" name
    return (({ schema := .networkView } : Object).put .name name).set .comment comment
  | network view cidr family comment => do
    let _ ← checkNetworkIn view cidr family
    return Object.networkIn .network view (.literal cidr) family comment
  | nextNetwork view container length family comment => do
    checkSubnet view container length family
    return Object.networkIn .network view (.nextAvailable container view length) family comment
  | networkContainer view cidr family comment => do
    let _ ← checkNetworkIn view cidr family
    return Object.networkIn .networkContainer view (.literal cidr) family comment
  | nextNetworkContainer view parent length family comment => do
    checkSubnet view parent length family
    return Object.networkIn .networkContainer view (.nextAvailable parent view length) family
      comment
  | fixedAddress view cidr ip mac name => do
    let address ← reservedAddress view cidr ip .v4
    let mac := (given mac).getD Mac.zero
    checkMac mac
    return ((((({ schema := .fixedAddress } : Object).put .networkView view).put .parentNetwork
      cidr).put .ipv4Address address).put .mac mac).set .name name
  | ipv6FixedAddress view cidr ip duid name => do
    let address ← reservedAddress view cidr ip .v6
    require "DUID" duid
    return ((((({ schema := .ipv6FixedAddress } : Object).put .networkView view).put .parentNetwork
      cidr).put .ipv6Address address).put .duid duid).set .name name
  | recordA view name address ttl => do
    require "DNS view" view
    require "record name" name
    checkAddressValue address .v4
    return (((Object.recordIn .recordA view).put .name name).put .ipv4Address address).withTtl ttl
  | recordAaaa view name address ttl => do
    require "DNS view" view
    require "record name" name
    checkAddressValue address .v6
    return (((Object.recordIn .recordAaaa view).put .name name).put .ipv6Address address).withTtl ttl
  | recordPtr view pointerName address ttl => do
    require "DNS view" view
    require "PTR domain name" pointerName
    checkAddressValue address (Family.ofIpv6 address.isV6)
    let o := (Object.recordIn .recordPtr view).put .pointerName pointerName
    return (if address.isV6 then o.put .ipv6Address address
      else o.put .ipv4Address address).withTtl ttl
  | recordCname view canonical aliasName ttl => do
    require "DNS view" view
    require "canonical name" canonical
    require "alias" aliasName
    return (((Object.recordIn .recordCname view).put .name aliasName).put .canonical canonical).withTtl
      ttl
  | recordMx view name mailExchanger preference ttl => do
    require "DNS view" view
    require "record name" name
    require "mail exchanger" mailExchanger
    return ((((Object.recordIn .recordMx view).put .name name).put .mailExchanger
      mailExchanger).put .preference preference).withTtl ttl
  | recordTxt view name text ttl => do
    require "DNS view" view
    require "record name" name
    require "text" text
    return (((Object.recordIn .recordTxt view).put .name name).put .text text).withTtl ttl
  | zoneAuth view fqdn => do
    require "DNS view" view
    require "zone FQDN" fqdn
    return (Object.recordIn .zoneAuth view).put .fqdn fqdn
  | attributeDefinition definition => do
    let name := definition.name.getD ""
    require "EA definition name" name
    if definition.valueType.getD "" = "" then
      refuse (.definitionWithoutType name)
    return definition.object

/-! ## Choices of the server -/

/-- What the server has to choose, by the way in which its choice is found out. -/
inductive ServerChoice
  /-- Nothing. -/
  | nothing
  /-- A network, which the reference shows with its view. -/
  | network
  /-- The address of a reservation, which the reference shows. -/
  | ipv4Address
  /-- The address of a reservation of version 6, which the reference shows. -/
  | ipv6Address
  /-- The address of a record, which only a read shows: the reference shows the name instead. -/
  | unseen
  deriving DecidableEq, Repr

/-- Whether a field asks for an address. -/
def asksForAddress (value : Option AddressValue) : Bool := value.any AddressValue.isAllocation

/-- Whether a field asks for a network. -/
def asksForNetwork (value : Option NetworkValue) : Bool := value.any NetworkValue.isAllocation

/-- What the server has to choose for an object. -/
def Object.choice (o : Object) : ServerChoice :=
  match o.schema with
  | .network | .networkContainer =>
    if asksForNetwork (o.values .network) then .network else .nothing
  | .fixedAddress => if asksForAddress (o.values .ipv4Address) then .ipv4Address else .nothing
  | .ipv6FixedAddress => if asksForAddress (o.values .ipv6Address) then .ipv6Address else .nothing
  | .recordA | .recordAaaa | .recordPtr =>
    if asksForAddress (o.values .ipv4Address) || asksForAddress (o.values .ipv6Address) then .unseen
    else .nothing
  | _ => .nothing

/-! ## Creation -/

namespace Provisioner

variable {σ : Type}

/-- Creates an object as it is; it then has the reference that the server gave. -/
def post (p : Provisioner σ) (o : Object) : Session σ Object := do
  let reference ← p.link.create o
  return { o with reference }

/-- Fills in what the server chose for an object that it has just created. -/
def settle (p : Provisioner σ) (o : Object) : Session σ Object :=
  match o.choice with
  | .nothing => pure o
  | .network => do
    let assigned ← Session.lift (Assigned.ofReference o.reference)
    return (o.put .network (.literal assigned.value)).put .networkView assigned.view
  | .ipv4Address => do
    let assigned ← Session.lift (Assigned.ofReference o.reference)
    return o.put .ipv4Address (.literal assigned.value)
  | .ipv6Address => do
    let assigned ← Session.lift (Assigned.ofReference o.reference)
    return o.put .ipv6Address (.literal assigned.value)
  | .unseen => p.read o.schema o.reference

/-- Creates what is asked for, with the given attributes and the mark of the owner. -/
def create (p : Provisioner σ) (c : Creation) (attributes : Attributes) : Session σ Object := do
  let draft ← Session.lift c.draft
  let created ← p.post { draft with attributes := p.ownedAttributes attributes }
  p.settle created

end Provisioner
end GridClient
