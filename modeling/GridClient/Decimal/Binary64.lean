/-!
# `GridClient.Decimal.Binary64` — finite binary64 numbers as exact integers

A magnitude is `significand · 2 ^ exponent`. All arithmetic is exact on natural numbers and then
rounded once, to the nearest representable value, a tie going to the even significand.

## Contents
- `Magnitude.ofRatio?`: the representable value nearest to a quotient; nothing on overflow.
- `Magnitude.times?`, `Magnitude.over?`: the rounded product and quotient.
- `Magnitude.scale?`: multiplication by a power of ten in representable steps.
-/

namespace GridClient.Decimal

/-- The magnitude of a finite binary64 number. A normal one has a significand of 53 bits; a
subnormal one has exponent `-1074` and fewer. -/
structure Magnitude where
  significand : Nat
  exponent : Int
  deriving DecidableEq, Repr

/-- A finite binary64 number. The sign is kept apart, so that zero has one too. -/
structure Binary64 where
  negative : Bool
  magnitude : Magnitude
  deriving DecidableEq, Repr

namespace Magnitude

/-- The least exponent. -/
def leastExponent : Int := -1074

/-- The greatest exponent. -/
def greatestExponent : Int := 971

/-- The least significand of 53 bits. -/
def leastNormal : Nat := 1 <<< 52

def zero : Magnitude := ⟨0, leastExponent⟩

def isZero (x : Magnitude) : Bool := x.significand == 0

/-- The whole number nearest to a quotient, a tie going to the even one. -/
def roundHalfEven (num den : Nat) : Nat :=
  let quotient := num / den
  let twice := 2 * (num % den)
  if twice < den ∨ (twice = den ∧ quotient % 2 = 0) then quotient else quotient + 1

/-- The greatest `t` with `2 ^ t ≤ num / den`, for a positive quotient. -/
def binaryOrder (num den : Nat) : Int :=
  let guess : Int := (num.log2 : Int) - den.log2
  let reached :=
    if 0 ≤ guess then den <<< guess.toNat ≤ num else den ≤ num <<< (-guess).toNat
  if reached then guess else guess - 1

/-- The magnitude nearest to `num / den`; nothing when it is too large. -/
def ofRatio? (num den : Nat) : Option Magnitude :=
  if num = 0 then some zero
  else
    let exponent := max (binaryOrder num den - 52) leastExponent
    let significand :=
      if 0 ≤ exponent then roundHalfEven num (den <<< exponent.toNat)
      else roundHalfEven (num <<< (-exponent).toNat) den
    let rounded : Magnitude :=
      if significand = 2 * leastNormal then ⟨leastNormal, exponent + 1⟩ else ⟨significand, exponent⟩
    if greatestExponent < rounded.exponent then none else some rounded

/-- The magnitude nearest to `num · 2 ^ exponent / den`. -/
def ofScaledRatio? (num : Nat) (exponent : Int) (den : Nat) : Option Magnitude :=
  if 0 ≤ exponent then ofRatio? (num <<< exponent.toNat) den
  else ofRatio? num (den <<< (-exponent).toNat)

/-- The magnitude nearest to a natural number. -/
def ofNat? (n : Nat) : Option Magnitude := ofRatio? n 1

/-- The rounded product. -/
def times? (x y : Magnitude) : Option Magnitude :=
  ofScaledRatio? (x.significand * y.significand) (x.exponent + y.exponent) 1

/-- The rounded quotient. -/
def over? (x y : Magnitude) : Option Magnitude :=
  ofScaledRatio? x.significand (x.exponent - y.exponent) y.significand

/-- The greatest power of ten that is representable. -/
def greatestPower : Nat := 308

/-- The magnitude nearest to `10 ^ k`, for `k` up to `greatestPower`. -/
def powerOfTen (k : Nat) : Magnitude := (ofNat? (Nat.pow 10 k)).getD zero

/-- `x · 10 ^ k`, by one rounded multiplication, or by as many rounded divisions as the greatest
representable power of ten makes necessary. -/
def scale? (x : Magnitude) (k : Int) : Option Magnitude :=
  if 0 ≤ k then
    if k ≤ greatestPower then x.times? (powerOfTen k.toNat)
    else if x.isZero then some x
    else none
  else if -k ≤ greatestPower then x.over? (powerOfTen (-k).toNat)
  else if x.isZero then some x
  else do (← x.over? (powerOfTen greatestPower)).scale? (k + greatestPower)
  termination_by k.natAbs
  decreasing_by
    have : (greatestPower : Int) = 308 := rfl
    omega

end Magnitude
end GridClient.Decimal
