import GridClient.Decimal.Shortest
import GridClient.Json.Basic

/-!
# `GridClient.Json.Document` — JSON as it was read

A document keeps what a reader of only a part of it does not have to understand: repeated keys,
strings that stand for no text, numbers out of range. Whoever uses such a part finds out.

## Contents
- `NumberText`, `NumberText.value?`: a number as written and the number that it denotes.
- `Document`: the tree.
- `Document.toJson?`: the value of a document that is used as a whole.
-/

namespace GridClient

/-! ## Numbers as written -/

/-- A number as written: its sign and its parts. -/
structure NumberText extends Decimal.Parts where
  negative : Bool
  deriving DecidableEq

namespace NumberText

/-- The greatest number of 64 bits. -/
def wordBound : Nat := UInt64.size - 1

/-- Digits taken into `significand` as long as it fits 64 bits, and the digits left over. -/
def take (significand : Nat) : List Char → Nat × List Char
  | [] => (significand, [])
  | c :: cs =>
    let next := significand * 10 + (c.toNat - 48)
    if next ≤ wordBound then take next cs else (significand, c :: cs)

/-- The exponent as written. -/
def writtenExponent : Option (Bool × List Char) → Int
  | none => 0
  | some (true, ds) => -(Decimal.value ds : Int)
  | some (false, ds) => Decimal.value ds

/-- The leading digits that fit 64 bits, times a power of ten: digits of the whole part beyond
them count into the power, digits of the fraction beyond them are dropped. -/
def real? (n : NumberText) : Option Number := do
  let (significand, beyond) := take 0 n.whole
  let fraction := n.fraction.getD []
  let (significand, dropped) := take significand fraction
  let power : Int :=
    (beyond.length : Int) - (fraction.length - dropped.length : Nat) + writtenExponent n.exponent
  let magnitude ← Decimal.Magnitude.ofNat? significand
  let magnitude ← magnitude.scale? power
  some (.real ⟨n.negative, magnitude⟩)

/-- The number denoted. An integer that fits 64 bits stays one, except for `-0`; whatever else is
written is a binary64 number; a number beyond the binary64 range is none. -/
def value? (n : NumberText) : Option Number :=
  if n.fraction.isNone ∧ n.exponent.isNone then
    let value := Decimal.value n.whole
    let integer? :=
      if n.negative then if value = 0 then none else Number.ofInt? (-value)
      else Number.ofInt? value
    integer?.or n.real?
  else n.real?

end NumberText

/-! ## Documents -/

/-- JSON as it was read. A string or key is missing when its escapes and octets stand for no text. -/
inductive Document
  | null
  | bool (value : Bool)
  | number (text : NumberText)
  | string (text? : Option String)
  | array (items : List Document)
  | object (members : List (Option String × Document))

mutual

/-- The value of a document in which every part is used. Of members with one key the last gives
the value, the first the place. -/
def Document.toJson? : Document → Option Json
  | .null => some .null
  | .bool b => some (.bool b)
  | .number n => n.value?.map .number
  | .string s => s.map .string
  | .array items => (itemValues? items).map .array
  | .object members => (memberValues? members []).map .object

/-- The values of all items. -/
def itemValues? : List Document → Option (List Json)
  | [] => some []
  | item :: rest => do
    let value ← item.toJson?
    let values ← itemValues? rest
    some (value :: values)

/-- The fields after the given ones, with the values of all members. -/
def memberValues? : List (Option String × Document) → Fields → Option Fields
  | [], fields => some fields
  | (key, item) :: rest, fields => do
    let key ← key
    let value ← item.toJson?
    memberValues? rest (fields.set key value)

end

end GridClient
