import GridClient.Json.Document
import GridClient.Text.Hex
import GridClient.Text.Utf8

/-!
# `GridClient.Json.Reader` — reading JSON

Strict JSON over octets: no byte order mark, comment, trailing comma or text after the value;
white space is blank, tab, line feed and carriage return. Octets above U+007F occur in strings only.

## Contents
- `StringText.scan`: a string literal, as pieces, and the text that they stand for.
- `NumberText.scan`: a number literal.
- `Document.read`: a whole text.
-/

namespace GridClient

open Text (Octets)

/-- An octet as the character with its number. -/
def symbol (octet : UInt8) : Char := Char.ofNat octet.toNat

/-- The octet of an ASCII character. -/
def octetOf (c : Char) : UInt8 := UInt8.ofNat c.toNat

/-! ## White space -/

/-- Whether an octet is white space between tokens. -/
def isJsonBlank (octet : UInt8) : Bool :=
  octet == 0x20 || octet == 0x09 || octet == 0x0A || octet == 0x0D

/-- The octets after leading white space. -/
def skipBlank (octets : Octets) : Octets := octets.dropWhile isJsonBlank

/-! ## Strings -/

/-- A piece of a string literal: an octet that stands for itself, or a 16-bit unit by number. -/
inductive StringPiece
  | octet (value : UInt8)
  | unit (value : Nat)

/-- The value of four hexadecimal digits. -/
def hexUnit? (a b c d : UInt8) : Option Nat := do
  let a ← Text.Hex.value? (symbol a)
  let b ← Text.Hex.value? (symbol b)
  let c ← Text.Hex.value? (symbol c)
  let d ← Text.Hex.value? (symbol d)
  some (((a * 16 + b) * 16 + c) * 16 + d)

/-- The octet that a backslash with one letter stands for. -/
def shortEscape? (octet : UInt8) : Option UInt8 :=
  match symbol octet with
  | '"' => some 0x22
  | '\\' => some 0x5C
  | '/' => some 0x2F
  | 'b' => some 0x08
  | 'f' => some 0x0C
  | 'n' => some 0x0A
  | 'r' => some 0x0D
  | 't' => some 0x09
  | _ => none

namespace StringText

/-- The pieces of a string literal after its opening quote, and the octets after its closing one. -/
def scan : Octets → Option (List StringPiece × Octets)
  | [] => none
  | octet :: rest =>
    if octet = 0x22 then some ([], rest)
    else if octet < 0x20 then none
    else if octet = 0x5C then
      match rest with
      | [] => none
      | letter :: rest =>
        if letter = octetOf 'u' then
          match rest with
          | a :: b :: c :: d :: rest => do
            let unit ← hexUnit? a b c d
            let (pieces, rest) ← scan rest
            some (.unit unit :: pieces, rest)
          | _ => none
        else do
          let octet ← shortEscape? letter
          let (pieces, rest) ← scan rest
          some (.octet octet :: pieces, rest)
    else do
      let (pieces, rest) ← scan rest
      some (.octet octet :: pieces, rest)

/-- Whether a unit is the first half of a surrogate pair. -/
def isLeading (unit : Nat) : Bool := 0xD800 ≤ unit && unit ≤ 0xDBFF

/-- Whether a unit is the second half of a surrogate pair. -/
def isTrailing (unit : Nat) : Bool := 0xDC00 ≤ unit && unit ≤ 0xDFFF

/-- The octets that the pieces stand for; nothing when half a surrogate pair stands alone. -/
def octets? : List StringPiece → Option Octets
  | [] => some []
  | .octet octet :: rest => (octets? rest).map (octet :: ·)
  | .unit first :: .unit second :: rest =>
    if isLeading first then
      if isTrailing second then
        let code := (first - 0xD800) * 0x400 + (second - 0xDC00) + 0x10000
        (octets? rest).map (String.utf8EncodeChar (Char.ofNat code) ++ ·)
      else none
    else if isTrailing first then none
    else (octets? (.unit second :: rest)).map (String.utf8EncodeChar (Char.ofNat first) ++ ·)
  | .unit unit :: rest =>
    if isLeading unit || isTrailing unit then none
    else (octets? rest).map (String.utf8EncodeChar (Char.ofNat unit) ++ ·)

/-- The text that the pieces stand for, if they stand for one. -/
def text? (pieces : List StringPiece) : Option String := octets? pieces >>= Text.Utf8.decode?

end StringText

/-! ## Numbers -/

/-- The leading digits of a sequence of octets, and the rest. -/
def spanDigits : Octets → List Char × Octets
  | [] => ([], [])
  | octet :: rest =>
    if (symbol octet).isDigit then
      let (digits, rest) := spanDigits rest
      (symbol octet :: digits, rest)
    else ([], octet :: rest)

namespace NumberText

/-- The digits before a point or exponent: no leading zero unless it stands alone. -/
def scanWhole (octets : Octets) : Option (List Char × Octets) :=
  match spanDigits octets with
  | ([], _) => none
  | ('0' :: _ :: _, _) => none
  | (digits, rest) => some (digits, rest)

/-- A point with the digits after it, if there is one. -/
def scanFraction (octets : Octets) : Option (Option (List Char) × Octets) :=
  match octets with
  | octet :: rest =>
    if octet = octetOf '.' then
      match spanDigits rest with
      | ([], _) => none
      | (digits, rest) => some (some digits, rest)
    else some (none, octets)
  | [] => some (none, [])

/-- An exponent, if there is one; the flag tells whether it is negative. -/
def scanExponent (octets : Octets) : Option (Option (Bool × List Char) × Octets) :=
  match octets with
  | octet :: rest =>
    if octet = octetOf 'e' ∨ octet = octetOf 'E' then
      let (negative, rest) := match rest with
        | sign :: rest' =>
          if sign = octetOf '-' then (true, rest')
          else if sign = octetOf '+' then (false, rest')
          else (false, rest)
        | [] => (false, [])
      match spanDigits rest with
      | ([], _) => none
      | (digits, rest) => some (some (negative, digits), rest)
    else some (none, octets)
  | [] => some (none, [])

/-- A number literal and the octets after it. -/
def scan (octets : Octets) : Option (NumberText × Octets) := do
  let (negative, octets) := match octets with
    | octet :: rest => if octet = octetOf '-' then (true, rest) else (false, octets)
    | [] => (false, [])
  let (whole, octets) ← scanWhole octets
  let (fraction, octets) ← scanFraction octets
  let (exponent, octets) ← scanExponent octets
  some (⟨⟨whole, fraction, exponent⟩, negative⟩, octets)

end NumberText

/-! ## Documents -/

/-- The octets after a word that they have to begin with. -/
def afterWord? : List Char → Octets → Option Octets
  | [], octets => some octets
  | c :: cs, octet :: octets => if symbol octet = c then afterWord? cs octets else none
  | _ :: _, [] => none

namespace Document

mutual

/-- A value, after any white space, and the octets after it. -/
def scan : Nat → Octets → Option (Document × Octets)
  | 0, _ => none
  | fuel + 1, octets =>
    match skipBlank octets with
    | [] => none
    | octet :: rest =>
      match symbol octet with
      | 'n' => (afterWord? ['u', 'l', 'l'] rest).map (null, ·)
      | 't' => (afterWord? ['r', 'u', 'e'] rest).map (bool true, ·)
      | 'f' => (afterWord? ['a', 'l', 's', 'e'] rest).map (bool false, ·)
      | '"' => do
        let (pieces, rest) ← StringText.scan rest
        some (string (StringText.text? pieces), rest)
      | '[' =>
        match skipBlank rest with
        | [] => none
        | first :: after =>
          if symbol first = ']' then some (array [], after)
          else do
            let (items, rest) ← scanItems fuel rest
            some (array items, rest)
      | '\x7b' =>
        match skipBlank rest with
        | [] => none
        | first :: after =>
          if symbol first = '\x7d' then some (object [], after)
          else do
            let (members, rest) ← scanMembers fuel rest
            some (object members, rest)
      | _ => do
        let (text, rest) ← NumberText.scan (octet :: rest)
        some (number text, rest)

/-- Values with commas between them, up to the closing bracket. -/
def scanItems : Nat → Octets → Option (List Document × Octets)
  | 0, _ => none
  | fuel + 1, octets => do
    let (item, rest) ← scan fuel octets
    match skipBlank rest with
    | [] => none
    | octet :: rest =>
      match symbol octet with
      | ',' => do
        let (items, rest) ← scanItems fuel rest
        some (item :: items, rest)
      | ']' => some ([item], rest)
      | _ => none

/-- Members with commas between them, up to the closing brace. -/
def scanMembers : Nat → Octets → Option (List (Option String × Document) × Octets)
  | 0, _ => none
  | fuel + 1, octets =>
    match skipBlank octets with
    | [] => none
    | quote :: rest =>
      if symbol quote = '"' then do
        let (pieces, rest) ← StringText.scan rest
        let key := StringText.text? pieces
        match skipBlank rest with
        | [] => none
        | colon :: rest =>
          if symbol colon = ':' then do
            let (value, rest) ← scan fuel rest
            match skipBlank rest with
            | [] => none
            | octet :: rest =>
              match symbol octet with
              | ',' => do
                let (members, rest) ← scanMembers fuel rest
                some ((key, value) :: members, rest)
              | '\x7d' => some ([(key, value)], rest)
              | _ => none
          else none
      else none

end

/-- Enough fuel: of two nested calls at least one consumes an octet. -/
def fuelFor (octets : Octets) : Nat := 2 * octets.length + 2

/-- The document that a whole text holds. -/
def read (octets : Octets) : Option Document := do
  let (document, rest) ← scan (fuelFor octets) octets
  if (skipBlank rest).isEmpty then some document else none

end Document
end GridClient
