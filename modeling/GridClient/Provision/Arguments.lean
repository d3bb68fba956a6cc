import GridClient.Address.Cidr
import GridClient.Allocation.AddressValue
import GridClient.Required

/-!
# `GridClient.Provision.Arguments` — addresses and networks in arguments

## Contents
- `given`, `checkGiven`: arguments that may be missing.
- `checkNetworkIn`: a network of a family, in a named view.
- `reservedAddress`: the address of a reservation, which lies in its network.
- `checkAddressValue`: the address of a record.
-/

namespace GridClient

/-- An argument that counts as missing when it is empty. -/
def given (argument : Option String) : Option String := argument.filter (· ≠ "")

/-- A check on an argument, where it is there. -/
def checkGiven {α : Type} (check : String → Checked α) (argument : Option String) : Checked Unit :=
  match argument with
  | some value => (check value).map fun _ => ()
  | none => .ok ()

/-- A network of a family, in a view that has to have a name. -/
def checkNetworkIn (view cidr : String) (family : Family) : Checked Cidr := do
  require "network view" view
  checkCidr cidr (some family)

/-- The address of a reservation: the one that is asked for, which has to lie in the network, or
else the next free one. -/
def reservedAddress (view cidr : String) (ip : Option String) (family : Family) :
    Checked AddressValue := do
  let network ← checkNetworkIn view cidr family
  match given ip with
  | none => .ok (.nextAvailable cidr view)
  | some ip =>
    let address ← checkAddress ip family
    if network.contains address then .ok (.literal ip) else refuse (.addressOutside ip cidr)

/-- The address of a record: one of the family, or the next free one in a network of the family. -/
def checkAddressValue (value : AddressValue) (family : Family) : Checked Unit :=
  match value with
  | .literal address => (checkAddress address family).map fun _ => ()
  | .nextAvailable cidr view => (checkNetworkIn view cidr family).map fun _ => ()

end GridClient
