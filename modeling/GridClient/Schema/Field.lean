import GridClient.Allocation.AddressValue
import GridClient.Allocation.NetworkValue

/-!
# `GridClient.Schema.Field` — members of objects

## Contents
- `FieldKind`: the kinds of values, with their JSON forms.
- `Field`: the members that objects have besides their reference and attributes; each has a name
  in JSON, a kind, and may be set by the server alone.
- `FieldValues`: an optional value for every field, with `set`.
-/

namespace GridClient

/-! ## Compound values -/

/-- The address settings of a grid member. -/
structure VipSetting where
  address : Option String := none
  gateway : Option String := none
  subnetMask : Option String := none
  deriving DecidableEq

namespace VipSetting

def layout : Layout := ⟨["address", "gateway", "subnet_mask"], 3⟩

/-- The members that are there, by name. -/
def toJson (v : VipSetting) : Json :=
  .object ([("address", v.address), ("gateway", v.gateway), ("subnet_mask", v.subnetMask)].filterMap
    fun m => m.2.map fun s => (m.1, .string s))

def ofDocument? (d : Document) : Option VipSetting := do
  let members ← layout.members? d
  let address ← members.optional? "address" Document.toText?
  let gateway ← members.optional? "gateway" Document.toText?
  let subnetMask ← members.optional? "subnet_mask" Document.toText?
  some { address, gateway, subnetMask }

end VipSetting

/-- One of the values that an enumerated attribute may have. -/
structure Choice where
  value : String
  deriving DecidableEq

namespace Choice

def layout : Layout := ⟨["value"], 1⟩

def toJson (c : Choice) : Json := .object [("value", .string c.value)]

def ofDocument? (d : Document) : Option Choice := do
  let members ← layout.members? d
  (members.required? "value" Document.toText?).map Choice.mk

end Choice

/-! ## Kinds -/

/-- The kinds of field values. -/
inductive FieldKind
  | text
  | count
  | flag
  | address
  | network
  | vip
  | choices
  deriving DecidableEq

namespace FieldKind

/-- The values of a kind. -/
def Value : FieldKind → Type
  | text => String
  | count => UInt32
  | flag => Bool
  | address => AddressValue
  | network => NetworkValue
  | vip => VipSetting
  | choices => List Choice

def toJson : (kind : FieldKind) → kind.Value → Json
  | text, (s : String) => .string s
  | count, (n : UInt32) => .number (.ofUInt32 n)
  | flag, (b : Bool) => .bool b
  | address, (a : AddressValue) => a.toJson
  | network, (n : NetworkValue) => n.toJson
  | vip, (v : VipSetting) => v.toJson
  | choices, (cs : List Choice) => .array (cs.map Choice.toJson)

def ofDocument? : (kind : FieldKind) → Document → Option kind.Value
  | text => Document.toText?
  | count => Document.toUInt32?
  | flag => Document.toBool?
  | address => AddressValue.ofDocument?
  | network => NetworkValue.ofDocument?
  | vip => VipSetting.ofDocument?
  | choices => Document.listOf? Choice.ofDocument?

end FieldKind

/-! ## Fields -/

/-- The members that objects have besides their reference and attributes. -/
inductive Field
  | name
  | comment
  | networkView
  /-- The network that an object is, or the request for one. -/
  | network
  /-- The network that an object lies in, in text. -/
  | parentNetwork
  | ipv4Address
  | ipv6Address
  | mac
  | duid
  | matchClient
  | view
  | ttl
  | useTtl
  | zone
  | pointerName
  | canonical
  | mailExchanger
  | preference
  | text
  | fqdn
  | zoneFormat
  | serviceStatus
  | hostName
  | addressType
  | platform
  | vipSetting
  | valueType
  | flags
  | listValues
  | userType
  deriving DecidableEq

namespace Field

/-- The name in JSON. -/
def wireName : Field → String
  | name => "name"
  | comment => "comment"
  | networkView => "network_view"
  | network | parentNetwork => "network"
  | ipv4Address => "ipv4addr"
  | ipv6Address => "ipv6addr"
  | mac => "mac"
  | duid => "duid"
  | matchClient => "match_client"
  | view => "view"
  | ttl => "ttl"
  | useTtl => "use_ttl"
  | zone => "zone"
  | pointerName => "ptrdname"
  | canonical => "canonical"
  | mailExchanger => "mail_exchanger"
  | preference => "preference"
  | text => "text"
  | fqdn => "fqdn"
  | zoneFormat => "zone_format"
  | serviceStatus => "service_status"
  | hostName => "host_name"
  | addressType => "config_addr_type"
  | platform => "platform"
  | vipSetting => "vip_setting"
  | valueType => "type"
  | flags => "flags"
  | listValues => "list_values"
  | userType => "user_type"

def kind : Field → FieldKind
  | network => .network
  | ipv4Address | ipv6Address => .address
  | ttl | preference => .count
  | useTtl => .flag
  | vipSetting => .vip
  | listValues => .choices
  | _ => .text

/-- Whether the server alone sets the field; such a field is read and never written. -/
def readOnly : Field → Bool
  | zone | serviceStatus | userType => true
  | _ => false

/-- The values of a field. -/
abbrev Value (f : Field) : Type := f.kind.Value

end Field

/-! ## Values of all fields -/

/-- An optional value for every field. -/
def FieldValues : Type := (f : Field) → Option f.Value

namespace FieldValues

/-- No field has a value. -/
def none : FieldValues := fun _ => Option.none

instance : Inhabited FieldValues := ⟨none⟩

/-- The values with that of one field replaced. -/
def set (values : FieldValues) (f : Field) (value : Option f.Value) : FieldValues :=
  fun g => if h : f = g then h ▸ value else values g

@[simp] theorem set_self (values : FieldValues) (f : Field) (value : Option f.Value) :
    values.set f value f = value := by simp [set]

theorem set_of_ne (values : FieldValues) {f g : Field} (h : f ≠ g) (value : Option f.Value) :
    values.set f value g = values g := by simp [set, h]

end FieldValues
end GridClient
