import GridClient.Address.Version4
import GridClient.Text.Hex

/-!
# `GridClient.Address.Version6` — colon addresses

## Contents
- `parse?`: eight groups of up to four hexadecimal digits; one `::` may stand for a run of at
  least one zero group, and the last two groups may be written as a dotted address.
- `chars`: the canonical form. The first of the longest runs of two or more zero groups becomes
  `::`, and addresses that embed one of version 4 show it dotted.
-/

namespace GridClient.Version6

open Text

/-! ## Reading -/

/-- One group: one to four hexadecimal digits. -/
def group? (cs : List Char) : Option Nat := do
  let digits ← cs.mapM Hex.value?
  if 1 ≤ digits.length ∧ digits.length ≤ 4 then
    some (digits.foldl (fun n digit => n * 16 + digit) 0)
  else none

/-- Groups written in pieces, the last of which may be a dotted address where that is allowed. -/
def groups? (dotted : Bool) : List (List Char) → Option (List Nat)
  | [] => some []
  | [piece] =>
    match group? piece with
    | some group => some [group]
    | none =>
      if dotted then (Version4.parse? piece).map fun n => [n / 65536, n % 65536] else none
  | piece :: rest => do
    let group ← group? piece
    let groups ← groups? dotted rest
    some (group :: groups)

/-- Groups with colons between them; an empty text has none. -/
def side? (dotted : Bool) (cs : List Char) : Option (List Nat) :=
  if cs.isEmpty then some [] else groups? dotted (pieces ':' cs)

/-- The parts before and after the first `::`. -/
def cutDouble : List Char → Option (List Char × List Char)
  | ':' :: ':' :: cs => some ([], cs)
  | c :: cs => (cutDouble cs).map fun (a, b) => (c :: a, b)
  | [] => none

/-- The eight groups of an address. -/
def allGroups? (cs : List Char) : Option (List Nat) :=
  match cutDouble cs with
  | none => do
    let groups ← side? true cs
    if groups.length = 8 then some groups else none
  | some (before, after) => do
    let head ← side? false before
    let tail ← side? true after
    if head.length + tail.length ≤ 7 then
      some (head ++ List.replicate (8 - (head.length + tail.length)) 0 ++ tail)
    else none

/-- The number that groups form. -/
def ofGroups (groups : List Nat) : Nat := groups.foldl (fun n group => n * 65536 + group) 0

/-- The number of an address. -/
def parse? (cs : List Char) : Option Nat := (allGroups? cs).map ofGroups

/-! ## Writing -/

/-- The eight groups of a number, the greatest first. -/
def groups (n : Nat) : List Nat :=
  [112, 96, 80, 64, 48, 32, 16, 0].map fun shift => (n >>> shift) % 65536

/-- The length of the run of zero groups that a list begins with. -/
def zeroRun (gs : List Nat) : Nat := (gs.takeWhile (· == 0)).length

/-- Place and length of the first of the longest runs of zero groups, from place `i` on. -/
def longestRun : Nat → List Nat → Nat × Nat
  | i, [] => (i, 0)
  | i, g :: gs =>
    let here := zeroRun (g :: gs)
    let later := longestRun (i + 1) gs
    if here < later.2 then later else (i, here)

/-- Groups with colons between them. -/
def groupChars (gs : List Nat) : List Char := join [':'] (gs.map (Nat.toDigits 16))

/-- The canonical form. -/
def chars (n : Nat) : List Char :=
  let gs := groups n
  if gs.take 6 = [0, 0, 0, 0, 0, 0xFFFF] then "::ffff:".toList ++ Version4.chars n
  else
    let (start, length) := longestRun 0 gs
    if 2 ≤ length then
      groupChars (gs.take start) ++ ':' :: ':' :: groupChars (gs.drop (start + length))
    else groupChars gs

end GridClient.Version6
