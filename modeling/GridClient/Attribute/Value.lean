import GridClient.Json.Printer
import GridClient.Json.Record
import GridClient.Text.AsciiCase

/-!
# `GridClient.Attribute.Value` — values of extensible attributes

## Contents
- `AttributeValue` and its views: `searchText`, `toBool?`, `toInt?`, `toText?`.
- `AttributeValue.toJson`: truth values are written as the strings `True` and `False`.
- `AttributeValue.ofDocument?`: reading, down to a nesting bound.
- `AttributeValue.written`: the value that is read back after writing.
-/

namespace GridClient

/-- The value of an extensible attribute. -/
inductive AttributeValue
  | bool (value : Bool)
  | number (value : Number)
  | text (value : String)
  | list (items : List AttributeValue)
  deriving Inhabited

namespace AttributeValue

/-- The word for a truth value. -/
def truthWord (b : Bool) : String := if b then "True" else "False"

/-! ## Views -/

mutual

/-- The value as a search criterion: the items of a list joined by commas. -/
def searchText : AttributeValue → String
  | bool b => truthWord b
  | number n => String.ofList n.chars
  | text s => s
  | list items => String.intercalate "," (searchTexts items)

/-- The items of a list as search criteria. -/
def searchTexts : List AttributeValue → List String
  | [] => []
  | item :: rest => item.searchText :: searchTexts rest

end

/-- The truth value, also of the words `true` and `false` in any case. -/
def toBool? : AttributeValue → Option Bool
  | bool b => some b
  | text s =>
    if Text.sameIgnoringCase s "true" then some true
    else if Text.sameIgnoringCase s "false" then some false
    else none
  | _ => none

/-- The number, if it is an integer of 64 bits with sign. -/
def toInt? : AttributeValue → Option Int
  | number n => n.toInt64?
  | _ => none

/-- The text, if the value is one. -/
def toText? : AttributeValue → Option String
  | text s => some s
  | _ => none

/-! ## Writing -/

mutual

/-- The JSON form. -/
def toJson : AttributeValue → Json
  | bool b => .string (truthWord b)
  | number n => .number n
  | text s => .string s
  | list items => .array (toJsons items)

/-- The JSON forms of the items of a list. -/
def toJsons : List AttributeValue → List Json
  | [] => []
  | item :: rest => item.toJson :: toJsons rest

end

mutual

/-- The value with the word in place of each truth value, at any depth. -/
def written : AttributeValue → AttributeValue
  | bool b => text (truthWord b)
  | list items => list (writtenItems items)
  | v => v

/-- `written` on the items of a list. -/
def writtenItems : List AttributeValue → List AttributeValue
  | [] => []
  | item :: rest => item.written :: writtenItems rest

end

/-! ## Reading -/

mutual

/-- The value that a document holds, when its lists nest no deeper than `room`. Neither `null` nor
an object is a value. -/
def ofDocument? (room : Nat) : Document → Option AttributeValue
  | .bool b => some (bool b)
  | .number n => n.value?.map number
  | .string s => s.map text
  | .array items =>
    match room with
    | 0 => none
    | room + 1 => (ofDocuments? room items).map list
  | .null | .object _ => none

/-- The values that all documents of a list hold. -/
def ofDocuments? (room : Nat) : List Document → Option (List AttributeValue)
  | [] => some []
  | item :: rest => do
    let value ← ofDocument? room item
    let values ← ofDocuments? room rest
    some (value :: values)

end

end AttributeValue
end GridClient
