import GridClient.Text.Printable

/-!
# `GridClient.Text.Quoted` — texts and records for diagnosis

## Contents
- `quote`: a text in quotes, with a backslash before quotes and backslashes, letters for the common
  controls, and invisible characters by number.
- `quoteList`, `record`: lists and records of shown values.
-/

namespace GridClient.Text

/-- The lower-case hexadecimal digits of a number. -/
def hexText (n : Nat) : List Char := Nat.toDigits 16 n

/-- One character as it stands in a quoted text. -/
def quoteChar (c : Char) : List Char :=
  match c with
  | '"' => ['\\', '"']
  | '\\' => ['\\', '\\']
  | '\n' => ['\\', 'n']
  | '\r' => ['\\', 'r']
  | '\t' => ['\\', 't']
  | '\x00' => ['\\', '0']
  | c => if isPrintable c then [c] else '\\' :: 'u' :: '\x7b' :: hexText c.toNat ++ ['\x7d']

/-- A text in quotes. -/
def quote (s : String) : String :=
  String.ofList ('"' :: s.toList.flatMap quoteChar ++ ['"'])

/-- A list of shown values. -/
def showList (items : List String) : String := "[" ++ String.intercalate ", " items ++ "]"

/-- A list of quoted texts. -/
def quoteList (items : List String) : String := showList (items.map quote)

/-- A record of shown values under a name. -/
def record (name : String) (fields : List (String × String)) : String :=
  name ++ " \x7b "
    ++ String.intercalate ", " (fields.map fun field => field.1 ++ ": " ++ field.2) ++ " \x7d"

end GridClient.Text
