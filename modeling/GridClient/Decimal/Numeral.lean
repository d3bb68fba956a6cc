/-!
# `GridClient.Decimal.Numeral` — natural numbers in decimal digits

## Contents
- `digits`: the digits of a number without leading zeros.
- `read?`: a run of digits, an optional `+` before it, read up to a bound.
-/

namespace GridClient.Decimal

/-- The decimal digits of a number, without leading zeros. -/
def digits (n : Nat) : List Char := Nat.toDigits 10 n

/-- The number that a run of digits stands for. -/
def value (cs : List Char) : Nat := Nat.ofDigitChars 10 cs 0

@[simp] theorem value_digits (n : Nat) : value (digits n) = n :=
  Nat.ofDigitChars_toDigits (by decide) (by decide)

/-- A run of at least one digit that stands for a number up to `bound`. -/
def readDigits? (bound : Nat) (cs : List Char) : Option Nat :=
  if cs ≠ [] ∧ cs.all Char.isDigit ∧ value cs ≤ bound then some (value cs) else none

/-- A number up to `bound`, with or without a leading `+`. Leading zeros are allowed. -/
def read? (bound : Nat) : List Char → Option Nat
  | '+' :: cs => readDigits? bound cs
  | cs => readDigits? bound cs

/-- The decimal text of a number. -/
def text (n : Nat) : String := String.ofList (digits n)

end GridClient.Decimal
