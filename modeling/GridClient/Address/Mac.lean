import GridClient.Error
import GridClient.Text.Hex

/-!
# `GridClient.Address.Mac` — hardware addresses

## Contents
- `Mac.octets?`: six hexadecimal octets with `:` or `-` between each two.
- `checkMac`: the local check on arguments.
-/

namespace GridClient

namespace Mac

/-- The hardware address that stands for none. -/
def zero : String := "00:00:00:00:00:00"

/-- The octet of two hexadecimal digits. -/
def octet? (a b : Char) : Option Nat := do
  let a ← Text.Hex.value? a
  let b ← Text.Hex.value? b
  some (a * 16 + b)

/-- Whether a character may stand between two octets. -/
def isSeparator (c : Char) : Bool := c == ':' || c == '-'

/-- `count` more octets after the one written first. -/
def octetList? : Nat → List Char → Option (List Nat)
  | 0, [a, b] => (octet? a b).map ([·])
  | count + 1, a :: b :: separator :: cs =>
    if isSeparator separator then do
      let octet ← octet? a b
      let octets ← octetList? count cs
      some (octet :: octets)
    else none
  | _, _ => none

/-- The six octets of a hardware address. -/
def octets? (mac : String) : Option (List Nat) := octetList? 5 mac.toList

end Mac

/-- A hardware address in text. -/
def checkMac (mac : String) : Checked Unit :=
  if (Mac.octets? mac).isSome then .ok () else refuse (.macMismatch mac)

end GridClient
