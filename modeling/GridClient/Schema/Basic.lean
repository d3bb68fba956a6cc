import GridClient.Schema.Field

/-!
# `GridClient.Schema.Basic` — the kinds of objects

## Contents
- `Schema`: the kinds of objects that the grid holds.
- `Schema.objectType`, `objectTypes`, `fields`, `returnFields`, `hasAttributes`: the table of what
  each kind has.
- `Schema.layout`: the members of its JSON form.
-/

namespace GridClient

/-- The kinds of objects. -/
inductive Schema
  | networkView
  | network
  | networkContainer
  | fixedAddress
  | ipv6FixedAddress
  | recordA
  | recordAaaa
  | recordPtr
  | recordCname
  | recordMx
  | recordTxt
  | zoneAuth
  | attributeDefinition
  | grid
  | member
  | userProfile
  deriving DecidableEq, Repr

namespace Schema

/-- All kinds of objects. -/
def all : List Schema :=
  [networkView, network, networkContainer, fixedAddress, ipv6FixedAddress, recordA, recordAaaa,
    recordPtr, recordCname, recordMx, recordTxt, zoneAuth, attributeDefinition, grid, member,
    userProfile]

theorem mem_all (s : Schema) : s ∈ all := by cases s <;> decide

/-- The name of the type; of a kind with a flag for the family, that of version 4. -/
def objectType : Schema → String
  | networkView => "networkview"
  | network => "network"
  | networkContainer => "networkcontainer"
  | fixedAddress => "fixedaddress"
  | ipv6FixedAddress => "ipv6fixedaddress"
  | recordA => "record:a"
  | recordAaaa => "record:aaaa"
  | recordPtr => "record:ptr"
  | recordCname => "record:cname"
  | recordMx => "record:mx"
  | recordTxt => "record:txt"
  | zoneAuth => "zone_auth"
  | attributeDefinition => "extensibleattributedef"
  | grid => "grid"
  | member => "member"
  | userProfile => "userprofile"

/-- Whether objects of this kind are of either address family. -/
def hasFamily : Schema → Bool
  | network | networkContainer => true
  | _ => false

/-- The names of types that objects of this kind can have. -/
def objectTypes (s : Schema) : List String :=
  if s.hasFamily then [s.objectType, "ipv6" ++ s.objectType] else [s.objectType]

/-- The kind whose type has a name. -/
def ofObjectType? (name : String) : Option Schema := all.find? (·.objectType == name)

/-- The declared fields in order. -/
def fields : Schema → List Field
  | networkView => [.name, .comment]
  | network | networkContainer => [.networkView, .network, .comment]
  | fixedAddress =>
    [.networkView, .parentNetwork, .ipv4Address, .mac, .name, .matchClient, .comment]
  | ipv6FixedAddress => [.networkView, .parentNetwork, .ipv6Address, .duid, .name, .comment]
  | recordA => [.view, .name, .ipv4Address, .ttl, .useTtl, .comment, .zone]
  | recordAaaa => [.view, .name, .ipv6Address, .ttl, .useTtl, .comment, .zone]
  | recordPtr =>
    [.view, .pointerName, .name, .ipv4Address, .ipv6Address, .ttl, .useTtl, .comment, .zone]
  | recordCname => [.view, .name, .canonical, .ttl, .useTtl, .comment, .zone]
  | recordMx => [.view, .name, .mailExchanger, .preference, .ttl, .useTtl, .comment, .zone]
  | recordTxt => [.view, .name, .text, .ttl, .useTtl, .comment, .zone]
  | zoneAuth => [.view, .fqdn, .zoneFormat, .comment]
  | attributeDefinition => [.name, .valueType, .comment, .flags, .listValues]
  | grid => [.name, .serviceStatus]
  | member => [.hostName, .addressType, .platform, .vipSetting, .comment]
  | userProfile => [.name, .userType]

/-- Whether objects of this kind carry extensible attributes. -/
def hasAttributes : Schema → Bool
  | attributeDefinition | grid | userProfile => false
  | _ => true

/-- The fields that a read asks for unless told otherwise. -/
def returnFields : Schema → List String
  | networkView => ["name", "comment", "extattrs"]
  | network | networkContainer => ["extattrs", "network", "network_view", "comment"]
  | fixedAddress =>
    ["extattrs", "ipv4addr", "mac", "name", "network", "network_view", "comment"]
  | ipv6FixedAddress =>
    ["extattrs", "ipv6addr", "duid", "name", "network", "network_view", "comment"]
  | recordA => ["extattrs", "ipv4addr", "name", "view", "zone", "comment", "ttl", "use_ttl"]
  | recordAaaa => ["extattrs", "ipv6addr", "name", "view", "zone", "comment", "ttl", "use_ttl"]
  | recordPtr =>
    ["extattrs", "ipv4addr", "ipv6addr", "name", "ptrdname", "view", "zone", "comment", "ttl",
      "use_ttl"]
  | recordCname => ["extattrs", "canonical", "name", "view", "zone", "comment", "ttl", "use_ttl"]
  | recordMx =>
    ["extattrs", "mail_exchanger", "name", "preference", "view", "zone", "comment", "ttl",
      "use_ttl"]
  | recordTxt => ["extattrs", "name", "text", "view", "zone", "comment", "ttl", "use_ttl"]
  | zoneAuth => ["extattrs", "fqdn", "view", "zone_format", "comment"]
  | attributeDefinition => ["name", "type", "comment", "flags", "list_values"]
  | grid => ["name", "service_status"]
  | member => ["host_name", "config_addr_type", "platform", "vip_setting", "comment", "extattrs"]
  | userProfile => ["name", "user_type"]

/-- The key of the reference in JSON. -/
def referenceKey : String := "_ref"

/-- The key of the extensible attributes in JSON. -/
def attributesKey : String := "extattrs"

/-- The fields that are written. -/
def writtenFields (s : Schema) : List Field := s.fields.filter fun f => !f.readOnly

/-- The members of the JSON form: reference, fields, attributes. Those that the server sets and
the attributes may be missing. -/
def layout (s : Schema) : Layout where
  names := referenceKey :: s.fields.map Field.wireName
    ++ (if s.hasAttributes then [attributesKey] else [])
  required := 1 + s.writtenFields.length

end Schema
end GridClient
