/-!
# `GridClient.Address.Basic` — addresses of both families

## Contents
- `Family`: version 4 or 6, with its width in bits.
- `Address`: the bits of an address of a family.
- `Address.network`, `Address.sharesPrefix`: the leading bits, and agreement in them.
-/

namespace GridClient

/-- An address family. -/
inductive Family
  | v4
  | v6
  deriving DecidableEq, Repr

namespace Family

/-- The number of bits of an address. -/
def width : Family → Nat
  | v4 => 32
  | v6 => 128

def ofIpv6 (ipv6 : Bool) : Family := if ipv6 then v6 else v4

def isV6 : Family → Bool
  | v4 => false
  | v6 => true

/-- The name as it stands in messages. -/
def name : Family → String
  | v4 => "IPv4"
  | v6 => "IPv6"

end Family

/-- An address: its family and its bits. -/
structure Address where
  family : Family
  bits : BitVec family.width
  deriving DecidableEq

namespace Address

/-- The address with the given number for its bits. -/
def ofNat (family : Family) (n : Nat) : Address := ⟨family, BitVec.ofNat _ n⟩

/-- The number that the bits stand for, the first bit being the greatest. -/
def toNat (a : Address) : Nat := a.bits.toNat

/-- How many bits follow the first `length`. -/
def hostWidth (family : Family) (length : Nat) : Nat := family.width - length

/-- The number of the first `length` bits. -/
def leading (a : Address) (length : Nat) : Nat := a.toNat >>> hostWidth a.family length

/-- The address with all bits after the first `length` set to zero. -/
def network (a : Address) (length : Nat) : Address :=
  ofNat a.family (a.leading length <<< hostWidth a.family length)

/-- Whether two addresses are of one family and agree in the first `length` bits. -/
def sharesPrefix (length : Nat) (a b : Address) : Bool :=
  a.family == b.family && a.leading length == b.leading length

end Address
end GridClient
