/-!
# `GridClient.Text.Blank` — white space

## Contents
- `isBlank`: the characters with the Unicode property `White_Space`.
- `trim`: a text without the white space at its two ends.
- `isBlankText`: the texts that hold nothing but white space.
-/

namespace GridClient.Text

/-- The characters with the Unicode property `White_Space`. -/
def isBlank (c : Char) : Bool :=
  let n := c.toNat
  (9 ≤ n && n ≤ 13) || n == 0x20 || n == 0x85 || n == 0xA0 || n == 0x1680
    || (0x2000 ≤ n && n ≤ 0x200A) || n == 0x2028 || n == 0x2029 || n == 0x202F
    || n == 0x205F || n == 0x3000

/-- The characters left when white space is cut off at both ends. -/
def trimChars (cs : List Char) : List Char :=
  ((cs.dropWhile isBlank).reverse.dropWhile isBlank).reverse

/-- A text without the white space at its two ends. -/
def trim (s : String) : String := String.ofList (trimChars s.toList)

/-- Whether a text is empty or holds nothing but white space. -/
def isBlankText (s : String) : Bool := s.toList.all isBlank

end GridClient.Text
