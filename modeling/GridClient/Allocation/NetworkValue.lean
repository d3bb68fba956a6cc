import GridClient.Decimal.Numeral
import GridClient.Json.Record
import GridClient.Text.Cut

/-!
# `GridClient.Allocation.NetworkValue` — a network, or a request for the next free one

A request for allocation is written as a function text in the place of a network:
`func:nextavailablenetwork:<cidr>,<network view>,<length>`.

## Contents
- `NetworkValue`, with `text` and `parse`.
- `isAllocation`, `isV6`, `literal?`: what a value says about itself.
-/

namespace GridClient

open Text

/-- A network as it stands, or the next free one of a given length in a larger network. -/
inductive NetworkValue
  | literal (cidr : String)
  | nextAvailable (cidr view : String) (length : UInt8)
  deriving DecidableEq

namespace NetworkValue

/-- How a request for allocation begins. -/
def functionStart : String := "func:nextavailablenetwork:"

/-- The written form. -/
def text : NetworkValue → String
  | literal cidr => cidr
  | nextAvailable cidr view length =>
    functionStart ++ cidr ++ "," ++ view ++ "," ++ Decimal.text length.toNat

/-- The arguments of a request: the first two commas divide them. -/
def parseArguments? (arguments : List Char) : Option NetworkValue := do
  let (cidr, rest) ← cutFirst ',' arguments
  let (view, length) ← cutFirst ',' rest
  let length ← Decimal.read? 255 length
  some (nextAvailable (String.ofList cidr) (String.ofList view) (UInt8.ofNat length))

/-- The value that a text writes. -/
def parse (s : String) : NetworkValue :=
  ((dropStart? functionStart s).bind fun arguments => parseArguments? arguments.toList).getD
    (literal s)

/-- Whether the server still has to choose the network. -/
def isAllocation : NetworkValue → Bool
  | literal _ => false
  | nextAvailable .. => true

/-- The network, unless it still has to be chosen. -/
def literal? : NetworkValue → Option String
  | literal cidr => some cidr
  | nextAvailable .. => none

/-- Whether the network, or the one that it is chosen from, is one of version 6. -/
def isV6 : NetworkValue → Bool
  | literal cidr => has cidr ':'
  | nextAvailable cidr _ _ => has cidr ':'

def toJson (v : NetworkValue) : Json := .string v.text

/-- An empty text is no network. -/
def ofDocument? (d : Document) : Option NetworkValue := do
  let s ← d.toText?
  if s = "" then none else some (parse s)

end NetworkValue
end GridClient
