import GridClient.Decimal.Binary64
import GridClient.Decimal.Numeral

/-!
# `GridClient.Decimal.Shortest` — the fewest digits that read back

A decimal reads back as a binary64 number when it lies among the reals that round to it. From the
coarsest decimal grid downward, the value's two neighbours on the grid are tested; the first grid
with a hit wins, of two hits the nearer, and of two equally near the even one.

## Contents
- `shortest`: the decimal with the fewest digits for a magnitude.
- `Style`, `Style.parts`: where positional notation ends, and the parts of either notation.
-/

namespace GridClient.Decimal

/-- The decimal number `coefficient · 10 ^ power`. -/
structure Scaled where
  coefficient : Nat
  power : Int
  deriving DecidableEq, Repr

/-- A value with the reals that round to it, as numerators over one denominator. -/
structure Interval where
  low : Nat
  value : Nat
  high : Nat
  den : Nat
  /-- Whether the two ends themselves belong to it. -/
  closed : Bool

/-- The reals that round to a magnitude: up to half the distance to its neighbours, the ends
included if the significand is even. Below a power of two the distance is halved. -/
def Magnitude.interval (x : Magnitude) : Interval :=
  let below :=
    if x.significand = Magnitude.leastNormal ∧ Magnitude.leastExponent < x.exponent then 1 else 2
  let exponent := x.exponent - 2
  let unit := if 0 ≤ exponent then 1 <<< exponent.toNat else 1
  let middle := 4 * x.significand
  { low := (middle - below) * unit
    value := middle * unit
    high := (middle + 2) * unit
    den := if 0 ≤ exponent then 1 else 1 <<< (-exponent).toNat
    closed := x.significand % 2 = 0 }

namespace Interval

/-- Whether `n / den` lies in the interval. -/
def contains (i : Interval) (n : Nat) : Bool :=
  if i.closed then i.low ≤ n && n ≤ i.high else i.low < n && n < i.high

/-- The interval in other units: numerators and denominator multiplied so that a step of the grid
`10 ^ power` is a whole number of units, together with that number. -/
def onGrid (i : Interval) (power : Int) : Interval × Nat :=
  if 0 ≤ power then (i, i.den * Nat.pow 10 power.toNat)
  else
    let k := Nat.pow 10 (-power).toNat
    (⟨i.low * k, i.value * k, i.high * k, i.den * k, i.closed⟩, i.den)

/-- The value's neighbour on a grid that lies in the interval, the nearer one if both do. -/
def neighbour? (i : Interval) (power : Int) : Option Nat :=
  let (i, step) := i.onGrid power
  let floor := i.value / step
  let below := i.value - floor * step
  let above := (floor + 1) * step - i.value
  match i.contains (floor * step), i.contains ((floor + 1) * step) with
  | true, true =>
    if below < above ∨ (below = above ∧ floor % 2 = 0) then some floor else some (floor + 1)
  | true, false => some floor
  | false, true => some (floor + 1)
  | false, false => none

/-- The first hit on the grids from `10 ^ power` downward. -/
def search (i : Interval) : Nat → Int → Option Scaled
  | 0, _ => none
  | steps + 1, power =>
    match i.neighbour? power with
    | some coefficient => some ⟨coefficient, power⟩
    | none => i.search steps (power - 1)

end Interval

/-- More steps than there are grids from the greatest magnitude down to the finest one needed. -/
def gridCount : Nat := 700

/-- The decimal with the fewest digits among those that read back as a magnitude. -/
def shortest (x : Magnitude) : Scaled :=
  if x.isZero then ⟨0, 0⟩
  else
    let i := x.interval
    (i.search gridCount (digits (i.value / i.den)).length).getD ⟨0, 0⟩

/-! ## Notation -/

/-- The parts of a decimal number as it is written. -/
structure Parts where
  /-- The digits before the point. -/
  whole : List Char
  /-- The digits after the point, if there is one. -/
  fraction : Option (List Char)
  /-- Whether the exponent is negative, and its digits, if there is one. -/
  exponent : Option (Bool × List Char)
  deriving DecidableEq

/-- How a decimal number is written. -/
structure Style where
  /-- The decimal point stands after this many digits or more: below, an exponent is written. -/
  leastPoint : Int
  /-- The decimal point stands after this many digits or fewer: above, an exponent is written. -/
  greatestPoint : Int
  /-- What follows the point of a whole number in positional notation, if it has one. -/
  wholeFraction : Option (List Char)

/-- The parts of a decimal number. With an exponent, one digit stands before the point. -/
def Style.parts (style : Style) (x : Scaled) : Parts :=
  let ds := digits x.coefficient
  let point : Int := ds.length + x.power
  if x.coefficient = 0 then ⟨['0'], style.wholeFraction, none⟩
  else if 0 < point ∧ point ≤ style.greatestPoint then
    let n := point.toNat
    if ds.length ≤ n then
      ⟨ds ++ List.replicate (n - ds.length) '0', style.wholeFraction, none⟩
    else ⟨ds.take n, some (ds.drop n), none⟩
  else if style.leastPoint ≤ point ∧ point ≤ 0 then
    ⟨['0'], some (List.replicate (-point).toNat '0' ++ ds), none⟩
  else
    let fraction := if ds.length = 1 then none else some (ds.drop 1)
    ⟨ds.take 1, fraction, some (point < 1, digits (point - 1).natAbs)⟩

end GridClient.Decimal
