import GridClient.Address.Version6
import GridClient.Error

/-!
# `GridClient.Address.Cidr` — addresses and networks in text

## Contents
- `Address.parse?`, `Address.text`: an address of either family.
- `Cidr`, `Cidr.parse?`: an address with a length, or for version 4 with a netmask.
- `checkCidr`, `checkAddress`, `checkLength`: the local checks on arguments.
-/

namespace GridClient

open Text

/-! ## Addresses -/

namespace Address

/-- The address of either family that a text writes. -/
def parseChars? (cs : List Char) : Option Address :=
  match Version4.parse? cs with
  | some n => some (ofNat .v4 n)
  | none => (Version6.parse? cs).map (ofNat .v6)

def parse? (s : String) : Option Address := parseChars? s.toList

def chars (a : Address) : List Char :=
  match a.family with
  | .v4 => Version4.chars a.toNat
  | .v6 => Version6.chars a.toNat

def text (a : Address) : String := String.ofList a.chars

end Address

/-! ## Networks -/

/-- An address and how many of its leading bits name a network. -/
structure Cidr where
  address : Address
  length : Nat

namespace Cidr

/-- Whether no bit after the first `length` is set. -/
def isNetwork (c : Cidr) : Bool := c.address.network c.length == c.address

/-- Whether an address lies in the network. -/
def contains (c : Cidr) (a : Address) : Bool := Address.sharesPrefix c.length c.address a

/-- The length that a netmask stands for: ones first, then only zeros. -/
def netmaskLength? (mask : Nat) : Option Nat :=
  (List.range 33).find? fun length => mask == 1 <<< 32 - 1 <<< (32 - length)

/-- A length in decimal digits, up to the family's width. -/
def length? (family : Family) (cs : List Char) : Option Nat := Decimal.read? family.width cs

/-- What follows the slash in version 4: a netmask or a length. -/
def version4Length? (cs : List Char) : Option Nat :=
  match Version4.parse? cs with
  | some mask => netmaskLength? mask
  | none => length? .v4 cs

/-- The address and length around the only slash of a text. -/
def parseChars? (cs : List Char) : Option Cidr := do
  let (address, length) ← cutFirst '/' cs
  match Version4.parse? address, version4Length? length with
  | some n, some length => some ⟨.ofNat .v4 n, length⟩
  | _, _ => do
    let n ← Version6.parse? address
    let length ← length? .v6 length
    some ⟨.ofNat .v6 n, length⟩

def parse? (s : String) : Option Cidr := parseChars? s.toList

end Cidr

/-! ## Checks -/

/-- A network in text, of a given family where one is asked for, without bits after its length. -/
def checkCidr (cidr : String) (family : Option Family) : Checked Cidr :=
  match Cidr.parse? cidr with
  | none => refuse (.cidrMismatch cidr)
  | some c =>
    if !c.isNetwork then
      refuse (.hostBits cidr (c.address.network c.length).text c.length)
    else if family.all (· == c.address.family) then .ok c
    else refuse (.cidrMismatch cidr)

/-- An address of a given family. -/
def checkAddress (address : String) (family : Family) : Checked Address :=
  match Address.parse? address with
  | none => refuse (.addressMismatch family.name address)
  | some a =>
    if a.family = family then .ok a else refuse (.addressMismatch family.name address)

/-- The length of a network to be allocated: at least one bit. -/
def checkLength (length : UInt8) (family : Family) : Checked Unit :=
  if length = 0 ∨ family.width < length.toNat then
    refuse (.lengthOutOfRange length.toNat family.width)
  else .ok ()

end GridClient
