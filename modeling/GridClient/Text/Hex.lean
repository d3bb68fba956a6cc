/-!
# `GridClient.Text.Hex` — hexadecimal digits

## Contents
- `value?`: the value of a digit of either case.
- `lower`, `upper`: the digit with a value below sixteen, inverted by `value?`.
- `toLower_eq_toLower_iff`: the case of a digit does not bear on its value.
-/

namespace GridClient.Text.Hex

/-- The value of a hexadecimal digit of either case. -/
def value? (c : Char) : Option Nat :=
  let n := c.toNat
  if 48 ≤ n ∧ n ≤ 57 then some (n - 48)
  else if 65 ≤ n ∧ n ≤ 70 then some (n - 55)
  else if 97 ≤ n ∧ n ≤ 102 then some (n - 87)
  else none

/-- The digit with a value, `a` to `f` for ten to fifteen. -/
def lower (n : Nat) : Char := if n < 10 then Char.ofNat (48 + n) else Char.ofNat (87 + n)

/-- The digit with a value, `A` to `F` for ten to fifteen. -/
def upper (n : Nat) : Char := if n < 10 then Char.ofNat (48 + n) else Char.ofNat (55 + n)

theorem value?_lower : ∀ n < 16, value? (lower n) = some n := by decide

theorem value?_upper : ∀ n < 16, value? (upper n) = some n := by decide

theorem value?_lt {c : Char} {n : Nat} (h : value? c = some n) : n < 16 := by
  simp only [value?] at h
  split at h
  · cases h; omega
  · split at h
    · cases h; omega
    · split at h
      · cases h; omega
      · cases h

/-- A digit made small is the small digit of its value. -/
theorem toLower_eq_lower {c : Char} {n : Nat} (h : value? c = some n) : c.toLower = lower n := by
  have hdigits : ∀ k < 103, ∀ m ∈ value? (Char.ofNat k), (Char.ofNat k).toLower = lower m := by
    decide
  have hcode : c.toNat < 103 := by
    simp only [value?] at h
    split at h
    · omega
    · split at h
      · omega
      · split at h
        · omega
        · cases h
  have hvalue : n ∈ value? (Char.ofNat c.toNat) := by rw [Char.ofNat_toNat]; exact h
  have hlower := hdigits c.toNat hcode n hvalue
  rwa [Char.ofNat_toNat] at hlower

/-- Digits differ in case alone exactly if they have the same value. -/
theorem toLower_eq_toLower_iff {c d : Char} {m n : Nat} (hc : value? c = some m)
    (hd : value? d = some n) : c.toLower = d.toLower ↔ m = n := by
  rw [toLower_eq_lower hc, toLower_eq_lower hd]
  constructor
  · intro h
    have hvalue := congrArg value? h
    rw [value?_lower m (value?_lt hc), value?_lower n (value?_lt hd)] at hvalue
    exact Option.some.inj hvalue
  · intro h
    rw [h]

end GridClient.Text.Hex
