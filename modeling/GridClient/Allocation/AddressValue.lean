import GridClient.Json.Record
import GridClient.Text.Cut

/-!
# `GridClient.Allocation.AddressValue` — an address, or a request for the next free one

A request for allocation is written as a function text in the place of an address:
`func:nextavailableip:<cidr>,<network view>`.

## Contents
- `AddressValue`, with `text` and `parse`.
- `isAllocation`, `isV6`, `literal?`: what a value says about itself.
-/

namespace GridClient

open Text

/-- An address as it stands, or the next free one in a network. -/
inductive AddressValue
  | literal (address : String)
  | nextAvailable (cidr view : String)
  deriving DecidableEq

namespace AddressValue

/-- How a request for allocation begins. -/
def functionStart : String := "func:nextavailableip:"

/-- The written form. -/
def text : AddressValue → String
  | literal address => address
  | nextAvailable cidr view => functionStart ++ cidr ++ "," ++ view

/-- The value that a text writes: a request has a comma, and the first one ends the network. -/
def parse (s : String) : AddressValue :=
  match dropStart? functionStart s with
  | none => literal s
  | some arguments =>
    match cutFirst? ',' arguments with
    | some (cidr, view) => nextAvailable cidr view
    | none => literal s

/-- Whether the server still has to choose the address. -/
def isAllocation : AddressValue → Bool
  | literal _ => false
  | nextAvailable .. => true

/-- The address, unless it still has to be chosen. -/
def literal? : AddressValue → Option String
  | literal address => some address
  | nextAvailable .. => none

/-- Whether the address, or the network that it is chosen from, is one of version 6. -/
def isV6 : AddressValue → Bool
  | literal address => has address ':'
  | nextAvailable cidr _ => has cidr ':'

def toJson (v : AddressValue) : Json := .string v.text

def ofDocument? (d : Document) : Option AddressValue := d.toText?.map parse

end AddressValue
end GridClient
