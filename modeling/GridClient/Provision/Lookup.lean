import GridClient.Address.Mac
import GridClient.Provision.Creation

/-!
# `GridClient.Provision.Lookup` — finding objects by what is known of them

## Contents
- `Lookup`: what is known; `Lookup.pattern`: the object to search by; `Lookup.subject`: its words;
  `Lookup.mayBeMissing`: whether there has to be such an object.
- `Provisioner.find?`, `find`: at most one object, or exactly one.
- `Provisioner.members`: the members of the grid.
-/

namespace GridClient

/-! ## Patterns -/

/-- What is known of an object. -/
inductive Lookup
  | networkView (name : String)
  | network (view cidr : String) (family : Family)
  | networkContainer (view cidr : String) (family : Family)
  | fixedAddress (view : String) (ip mac : Option String)
  | ipv6FixedAddress (view ip : String)
  | recordA (view name ip : String)
  | recordAaaa (view name ip : String)
  | recordPtr (view pointerName ip : String)
  | recordCname (view canonical aliasName : String)
  | recordMx (view name mailExchanger : String)
  | recordTxt (view name : String)
  | zoneAuth (view fqdn : String)
  | attributeDefinition (name : String)
  | grid

namespace Lookup

/-- The object to search by, if what is known passes its checks. -/
def pattern : Lookup → Checked Object
  | networkView name => do
    require "network view name" name
    return ({ schema := .networkView } : Object).put .name name
  | network view cidr family => do
    let _ ← checkNetworkIn view cidr family
    return Object.networkIn .network view (.literal cidr) family none
  | networkContainer view cidr family => do
    let _ ← checkNetworkIn view cidr family
    return Object.networkIn .networkContainer view (.literal cidr) family none
  | fixedAddress view ip mac => do
    require "network view" view
    if (given ip).isNone && (given mac).isNone then
      refuse .reservationUnspecified
    checkGiven (checkAddress · .v4) (given ip)
    checkGiven checkMac (given mac)
    return ((({ schema := .fixedAddress } : Object).put .networkView view).set .ipv4Address
      ((given ip).map AddressValue.literal)).set .mac (given mac)
  | ipv6FixedAddress view ip => do
    require "network view" view
    let _ ← checkAddress ip .v6
    return (({ schema := .ipv6FixedAddress } : Object).put .networkView view).put .ipv6Address
      (.literal ip)
  | recordA view name ip => do
    requireAll "an A record" [("view", view), ("address", ip), ("name", name)]
    let _ ← checkAddress ip .v4
    return ((Object.recordIn .recordA view).put .name name).put .ipv4Address (.literal ip)
  | recordAaaa view name ip => do
    requireAll "an AAAA record" [("view", view), ("address", ip), ("name", name)]
    let _ ← checkAddress ip .v6
    return ((Object.recordIn .recordAaaa view).put .name name).put .ipv6Address (.literal ip)
  | recordPtr view pointerName ip => do
    requireAll "a PTR record" [("view", view), ("ptrdname", pointerName), ("address", ip)]
    let ipv6 := Text.has ip ':'
    let _ ← checkAddress ip (Family.ofIpv6 ipv6)
    let o := (Object.recordIn .recordPtr view).put .pointerName pointerName
    return if ipv6 then o.put .ipv6Address (.literal ip) else o.put .ipv4Address (.literal ip)
  | recordCname view canonical aliasName => do
    requireAll "a CNAME record" [("view", view), ("canonical", canonical), ("alias", aliasName)]
    return ((Object.recordIn .recordCname view).put .name aliasName).put .canonical canonical
  | recordMx view name mailExchanger => do
    requireAll "an MX record"
      [("view", view), ("name", name), ("mail_exchanger", mailExchanger)]
    return ((Object.recordIn .recordMx view).put .name name).put .mailExchanger mailExchanger
  | recordTxt view name => do
    requireAll "a TXT record" [("view", view), ("name", name)]
    return (Object.recordIn .recordTxt view).put .name name
  | zoneAuth view fqdn => do
    require "DNS view" view
    require "zone FQDN" fqdn
    return (Object.recordIn .zoneAuth view).put .fqdn fqdn
  | attributeDefinition name => do
    require "EA definition name" name
    return ({ schema := .attributeDefinition } : Object).put .name name
  | grid => return { schema := .grid }

/-- What is looked for, in words. -/
def subject : Lookup → String
  | networkView name => s!"networkview {name}"
  | network view cidr _ => s!"network {cidr} in {view}"
  | networkContainer view cidr _ => s!"network container {cidr} in {view}"
  | fixedAddress view ip mac =>
    let ip := (given ip).getD "*"
    let mac := (given mac).getD "*"
    s!"fixedaddress {ip}/{mac} in {view}"
  | ipv6FixedAddress view ip => s!"ipv6fixedaddress {ip} in {view}"
  | recordA view name ip => s!"record:a {name} {ip} in {view}"
  | recordAaaa view name ip => s!"record:aaaa {name} {ip} in {view}"
  | recordPtr view pointerName ip => s!"record:ptr {pointerName} {ip} in {view}"
  | recordCname view canonical aliasName => s!"record:cname {aliasName} -> {canonical} in {view}"
  | recordMx view name mailExchanger => s!"record:mx {name} -> {mailExchanger} in {view}"
  | recordTxt view name => s!"record:txt {name} in {view}"
  | zoneAuth view fqdn => s!"zone_auth {fqdn} in {view}"
  | attributeDefinition name => s!"extensibleattributedef {name}"
  | grid => "grid"

/-- Whether it is no failure that there is no such object: a zone and the definition of an attribute
are looked for to find out whether they are there. -/
def mayBeMissing : Lookup → Bool
  | zoneAuth .. | attributeDefinition .. => true
  | _ => false

end Lookup

/-- The only element of a list, if it has one; a list of several is ambiguous. -/
def atMostOne (what : String) : List Object → Checked (Option Object)
  | [] => .ok none
  | [o] => .ok (some o)
  | os => .error (.ambiguous what os.length)

/-! ## Finding -/

namespace Provisioner

variable {σ : Type}

/-- The object that is looked for, or nothing if there is none. -/
def find? (p : Provisioner σ) (l : Lookup) : Session σ (Option Object) := do
  let pattern ← Session.lift l.pattern
  let found ← p.link.list pattern p.readQuery
  Session.lift (atMostOne l.subject found)

/-- The object that is looked for, which has to be there. -/
def find (p : Provisioner σ) (l : Lookup) : Session σ Object := do
  match ← p.find? l with
  | some o => return o
  | none => throw (.notFound l.subject "no matching object")

/-- The members of the grid, or those with a host name. -/
def members (p : Provisioner σ) (hostName : Option String) : Session σ (List Object) :=
  p.link.list (({ schema := .member } : Object).set .hostName (given hostName)) p.readQuery

end Provisioner
end GridClient
