import GridClient.Address.Basic
import GridClient.Decimal.Numeral
import GridClient.Text.Cut

/-!
# `GridClient.Address.Version4` — dotted addresses

## Contents
- `parse?`: four decimal numbers up to 255 with points between them, none with a leading zero.
- `chars`: the written form.
-/

namespace GridClient.Version4

open Text

/-- One number of a dotted address. -/
def octet? (cs : List Char) : Option Nat :=
  match cs with
  | '0' :: _ :: _ => none
  | cs => Decimal.readDigits? 255 cs

/-- The number that four octets form. -/
def ofOctets (octets : List Nat) : Nat := octets.foldl (fun n octet => n * 256 + octet) 0

/-- The number of a dotted address. -/
def parse? (cs : List Char) : Option Nat := do
  let octets ← (pieces '.' cs).mapM octet?
  if octets.length = 4 then some (ofOctets octets) else none

/-- The four octets of a number, the greatest first. -/
def octets (n : Nat) : List Nat :=
  [(n >>> 24) % 256, (n >>> 16) % 256, (n >>> 8) % 256, n % 256]

/-- The dotted form. -/
def chars (n : Nat) : List Char := join ['.'] ((octets n).map Decimal.digits)

end GridClient.Version4
