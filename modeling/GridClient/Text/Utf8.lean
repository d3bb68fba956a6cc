/-!
# `GridClient.Text.Utf8` — octets and the text they stand for

## Contents
- `encode`, `decode?`: a text as UTF-8 octets, and strict reading, which inverts it.
- `decodeLossy`: reading that puts U+FFFD in place of each maximal ill-formed stretch.
-/

namespace GridClient.Text

/-- A sequence of octets. -/
abbrev Octets := List UInt8

namespace Utf8

/-! ## Strict reading -/

/-- The UTF-8 octets of a text. -/
def encode (s : String) : Octets := s.toByteArray.data.toList

/-- The text that well-formed octets stand for; nothing for any others. -/
def decode? (octets : Octets) : Option String := String.fromUTF8? ⟨octets.toArray⟩

/-- The octets of a text are those of its characters, one after the other. -/
theorem encode_ofList (cs : List Char) :
    encode (String.ofList cs) = cs.flatMap String.utf8EncodeChar := by
  simp [encode, String.ofList, List.utf8Encode]

theorem encode_append (s t : String) : encode (s ++ t) = encode s ++ encode t := by
  simp [encode]

@[simp] theorem decode?_encode (s : String) : decode? (encode s) = some s := by
  have h : (⟨(encode s).toArray⟩ : ByteArray) = s.toByteArray := by simp [encode]
  rw [decode?, h, String.fromUTF8?, dif_pos s.isValidUTF8]
  rfl

theorem encode_injective {s t : String} (h : encode s = encode t) : s = t :=
  Option.some.inj (by rw [← decode?_encode s, h, decode?_encode])

/-! ## Lossy reading -/

/-- Where a reader stands: between characters, or inside one whose octets so far give `code`,
with `left` more to come after the next, and the next one between `low` and `high`. -/
inductive Reading
  | between
  | inside (code left : Nat) (low high : UInt8)

/-- The replacement character. -/
def replacement : Char := '\ufffd'

/-- What the first octet of a character means: a finished character, the beginning of a longer
one, or, for an octet that begins none, the replacement character. The bounds on the second
octet keep out overlong forms, surrogates and numbers above U+10FFFF. -/
def openWith (octet : UInt8) : List Char × Reading :=
  let n := octet.toNat
  if n < 0x80 then ([Char.ofNat n], .between)
  else if n < 0xC2 then ([replacement], .between)
  else if n < 0xE0 then ([], .inside (n - 0xC0) 0 0x80 0xBF)
  else if n < 0xF0 then
    ([], .inside (n - 0xE0) 1 (if n = 0xE0 then 0xA0 else 0x80) (if n = 0xED then 0x9F else 0xBF))
  else if n < 0xF5 then
    ([], .inside (n - 0xF0) 2 (if n = 0xF0 then 0x90 else 0x80) (if n = 0xF4 then 0x8F else 0xBF))
  else ([replacement], .between)

/-- The characters that the next octet finishes, and where the reader stands after it. -/
def advance : Reading → UInt8 → List Char × Reading
  | .between, octet => openWith octet
  | .inside code left low high, octet =>
    if low ≤ octet ∧ octet ≤ high then
      let code := code * 64 + (octet.toNat - 0x80)
      match left with
      | 0 => ([Char.ofNat code], .between)
      | left + 1 => ([], .inside code left 0x80 0xBF)
    else
      let (cs, reading) := openWith octet
      (replacement :: cs, reading)

/-- The characters of a sequence of octets, for a reader that stands at the given place. -/
def readFrom : Reading → Octets → List Char
  | .between, [] => []
  | .inside .., [] => [replacement]
  | reading, octet :: octets =>
    let (cs, reading) := advance reading octet
    cs ++ readFrom reading octets

/-- The text of any octets, with U+FFFD for each maximal stretch that begins no character. -/
def decodeLossy (octets : Octets) : String := String.ofList (readFrom .between octets)

end Utf8
end GridClient.Text
