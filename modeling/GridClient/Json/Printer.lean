import GridClient.Json.Document
import GridClient.Text.Hex

/-!
# `GridClient.Json.Printer` — compact JSON text

No spaces; members in their order; a string escapes only quotes, backslashes and control
characters below U+0020, the common ones by a letter and the others as `\u` with four digits.

## Contents
- `quoteChars`, `NumberText.chars`: the text of strings and numbers.
- `Json.chars`, `Json.text`: the text of a value.
- `Json.document`: the document that the text of a value is.
-/

namespace GridClient

/-! ## Strings -/

/-- One character as it stands inside a string. -/
def escapeChar (c : Char) : List Char :=
  match c with
  | '"' => ['\\', '"']
  | '\\' => ['\\', '\\']
  | '\x08' => ['\\', 'b']
  | '\x0c' => ['\\', 'f']
  | '\n' => ['\\', 'n']
  | '\r' => ['\\', 'r']
  | '\t' => ['\\', 't']
  | c =>
    if c.toNat < 32 then
      ['\\', 'u', '0', '0', Text.Hex.lower (c.toNat / 16), Text.Hex.lower (c.toNat % 16)]
    else [c]

/-- A text as a JSON string. -/
def quoteChars (s : String) : List Char := '"' :: s.toList.flatMap escapeChar ++ ['"']

/-! ## Numbers -/

/-- The text of a number; an exponent has a sign in any case. -/
def NumberText.chars (n : NumberText) : List Char :=
  let fraction := match n.fraction with
    | some ds => '.' :: ds
    | none => []
  let exponent := match n.exponent with
    | some (negative, ds) => 'e' :: (if negative then '-' else '+') :: ds
    | none => []
  (if n.negative then ['-'] else []) ++ n.whole ++ fraction ++ exponent

namespace Number

/-- Binary64 numbers are written with a point or an exponent, so that they differ from integers:
positionally from 0.00001 up to below 10 ^ 16, elsewhere with an exponent. -/
def realStyle : Decimal.Style := { leastPoint := -4, greatestPoint := 16, wholeFraction := some ['0'] }

/-- A number as it is written: an integer by its digits, any other by its shortest decimal. -/
def written : Number → NumberText
  | integer value _ => ⟨⟨Decimal.digits value.natAbs, none, none⟩, value < 0⟩
  | real value => ⟨realStyle.parts (Decimal.shortest value.magnitude), value.negative⟩

def chars (n : Number) : List Char := n.written.chars

end Number

/-! ## Values -/

mutual

/-- The compact text of a value. -/
def Json.chars : Json → List Char
  | .null => ['n', 'u', 'l', 'l']
  | .bool true => ['t', 'r', 'u', 'e']
  | .bool false => ['f', 'a', 'l', 's', 'e']
  | .number n => n.chars
  | .string s => quoteChars s
  | .array items => '[' :: itemChars items ++ [']']
  | .object members => '\x7b' :: memberChars members ++ ['\x7d']

/-- The values of an array, with commas between them. -/
def itemChars : List Json → List Char
  | [] => []
  | [item] => item.chars
  | item :: rest => item.chars ++ ',' :: itemChars rest

/-- The members of an object, with commas between them. -/
def memberChars : List (String × Json) → List Char
  | [] => []
  | [(key, value)] => quoteChars key ++ ':' :: value.chars
  | (key, value) :: rest => quoteChars key ++ ':' :: value.chars ++ ',' :: memberChars rest

end

/-- The compact text of a value. -/
def Json.text (j : Json) : String := String.ofList j.chars

mutual

/-- The document that the text of a value is. -/
def Json.document : Json → Document
  | .null => .null
  | .bool b => .bool b
  | .number n => .number n.written
  | .string s => .string (some s)
  | .array items => .array (itemDocuments items)
  | .object members => .object (memberDocuments members)

/-- The documents of all items. -/
def itemDocuments : List Json → List Document
  | [] => []
  | item :: rest => item.document :: itemDocuments rest

/-- The documents of all members. -/
def memberDocuments : List (String × Json) → List (Option String × Document)
  | [] => []
  | (key, value) :: rest => (some key, value.document) :: memberDocuments rest

end

end GridClient
