import GridClient.Decimal.Numeral

/-!
# `GridClient.Proofs.Decimal.Numeral` — which texts are numbers

A number is read from its digits. Zeros may stand before them, and where the reader allows one a
sign. A number that is written has neither.

## Contents
- `DecimalText`, `SignedText`: the texts of a number.
- `Decimal.readDigits?_eq_some_iff`, `Decimal.read?_eq_some_iff`: what is read, and from which
  texts.
- `Decimal.head?_digits`, `Decimal.text_inj`, `decimalText_text`, `read?_digits`: what is written.
-/

namespace GridClient

/-- A text of digits, at least one, that stand for a number. Leading zeros are allowed. -/
def DecimalText (n : Nat) (s : String) : Prop :=
  s ≠ "" ∧ (∀ c ∈ s.toList, c.isDigit = true) ∧ Decimal.value s.toList = n

/-- A text that is digits as it stands, or after a sign. -/
def SignedText (n : Nat) (s : String) : Prop :=
  DecimalText n s ∨ ∃ digits, s = "+" ++ digits ∧ DecimalText n digits

variable {bound n : Nat}

theorem SignedText.isDigit_or_plus {s : String} (h : SignedText n s) :
    ∀ c ∈ s.toList, c.isDigit = true ∨ c = '+' := by
  intro c hc
  rcases h with ⟨-, hdigits, -⟩ | ⟨digits, rfl, -, hdigits, -⟩
  · exact .inl (hdigits c hc)
  · rw [String.toList_append] at hc
    rcases List.mem_append.mp hc with hc | hc
    · exact .inr (List.mem_singleton.mp hc)
    · exact .inl (hdigits c hc)

/-! ## Reading -/

namespace Decimal

theorem readDigits?_eq_some_iff {cs : List Char} :
    readDigits? bound cs = some n
      ↔ n ≤ bound ∧ cs ≠ [] ∧ (∀ c ∈ cs, c.isDigit = true) ∧ value cs = n := by
  unfold readDigits?
  rw [Option.ite_none_right_eq_some, List.all_eq_true]
  constructor
  · rintro ⟨⟨hne, hdigits, hbound⟩, heq⟩
    obtain rfl := Option.some.inj heq
    exact ⟨hbound, hne, hdigits, rfl⟩
  · rintro ⟨hbound, hne, hdigits, rfl⟩
    exact ⟨⟨hne, hdigits, hbound⟩, rfl⟩

/-- A number is read from its digits, up to the bound. -/
theorem readDigits?_toList_eq_some_iff {s : String} :
    readDigits? bound s.toList = some n ↔ n ≤ bound ∧ DecimalText n s := by
  rw [readDigits?_eq_some_iff, DecimalText, Ne, Ne, String.toList_eq_nil_iff]

/-- **A number is read from its digits, with or without a sign**, up to the bound. -/
theorem read?_eq_some_iff {s : String} :
    read? bound s.toList = some n ↔ n ≤ bound ∧ SignedText n s := by
  by_cases hsign : ∃ digits, s = "+" ++ digits
  · obtain ⟨digits, rfl⟩ := hsign
    -- a sign is no digit, so the text is not digits as it stands
    have hnot : ¬ DecimalText n ("+" ++ digits) := by
      rintro ⟨-, hdigits, -⟩
      have hplus := hdigits '+' (by simp)
      exact absurd hplus (by decide)
    have hread : read? bound ("+" ++ digits).toList = readDigits? bound digits.toList := by
      rw [String.toList_append]
      rfl
    rw [hread, readDigits?_toList_eq_some_iff, SignedText, or_iff_right hnot]
    constructor
    · rintro ⟨hbound, hdigits⟩
      exact ⟨hbound, digits, rfl, hdigits⟩
    · rintro ⟨hbound, others, hsame, hothers⟩
      have heq : others = digits := by
        have htail := congrArg String.toList hsame
        exact String.toList_inj.mp (by simpa using htail.symm)
      exact ⟨hbound, heq ▸ hothers⟩
  · have hread : read? bound s.toList = readDigits? bound s.toList := by
      unfold read?
      split
      · rename_i cs hcs
        refine absurd ⟨String.ofList cs, ?_⟩ hsign
        have hrest : (String.ofList cs).toList = cs := String.toList_ofList
        rw [← String.toList_inj, String.toList_append, hcs, hrest]
        rfl
      · rfl
    rw [hread, readDigits?_toList_eq_some_iff, SignedText]
    constructor
    · rintro ⟨hbound, hdigits⟩
      exact ⟨hbound, .inl hdigits⟩
    · rintro ⟨hbound, hdigits | ⟨digits, hsame, -⟩⟩
      · exact ⟨hbound, hdigits⟩
      · exact absurd ⟨digits, hsame⟩ hsign

end Decimal

theorem isDigit_of_readDigits? {cs : List Char} (h : Decimal.readDigits? bound cs = some n) :
    ∀ c ∈ cs, c.isDigit = true := by
  obtain ⟨-, -, hdigits, -⟩ := Decimal.readDigits?_eq_some_iff.mp h
  exact hdigits

/-- A number may have a sign in front. -/
theorem isDigit_of_read? {cs : List Char} (h : Decimal.read? bound cs = some n) :
    ∀ c ∈ cs, c.isDigit = true ∨ c = '+' := by
  unfold Decimal.read? at h
  split at h
  · intro c hc
    rcases List.mem_cons.mp hc with hc | hc
    · exact Or.inr hc
    · exact Or.inl (isDigit_of_readDigits? h c hc)
  · exact fun c hc => Or.inl (isDigit_of_readDigits? h c hc)

/-! ## Writing -/

namespace Decimal

theorem isDigit_of_mem_digits {c : Char} (h : c ∈ digits n) : c.isDigit = true :=
  Nat.isDigit_of_mem_toDigits (by decide) (by decide) h

/-- Only zero is written with a leading zero. -/
theorem head?_digits (h : n ≠ 0) : (digits n).head? ≠ some '0' := by
  unfold digits
  induction n using Nat.strongRecOn with
  | ind n ih =>
      by_cases hn : n < 10
      · rw [Nat.toDigits_of_lt_base hn]
        have hall : ∀ k < 10, k ≠ 0 → [k.digitChar].head? ≠ some '0' := by decide
        exact hall n hn h
      · -- the first digit of a longer number is that of its tenth
        have hfirst := ih (n / 10) (by omega) (by omega)
        rw [Nat.toDigits_of_base_le (by decide) (by omega), List.head?_append]
        cases hhead : (Nat.toDigits 10 (n / 10)).head? with
        | none => exact absurd (List.head?_eq_none_iff.mp hhead) Nat.toDigits_ne_nil
        | some c =>
            rw [hhead] at hfirst
            exact hfirst

theorem readDigits?_digits (h : n ≤ bound) : readDigits? bound (digits n) = some n := by
  apply readDigits?_eq_some_iff.mpr
  exact ⟨h, Nat.toDigits_ne_nil, fun c hc => isDigit_of_mem_digits hc, value_digits n⟩

end Decimal

@[simp] theorem Decimal.text_inj {m n : Nat} : Decimal.text m = Decimal.text n ↔ m = n := by
  constructor
  · intro h
    have hvalue := congrArg Decimal.value (String.ofList_inj.mp h)
    rwa [Decimal.value_digits, Decimal.value_digits] at hvalue
  · rintro rfl
    rfl

theorem decimalText_text (n : Nat) : DecimalText n (Decimal.text n) := by
  have hchars : (Decimal.text n).toList = Decimal.digits n := by
    rw [Decimal.text, String.toList_ofList]
  refine ⟨?_, ?_, ?_⟩
  · intro hempty
    rw [← String.toList_eq_nil_iff, hchars] at hempty
    exact Nat.toDigits_ne_nil hempty
  · rw [hchars]
    exact fun c hc => Decimal.isDigit_of_mem_digits hc
  · rw [hchars, Decimal.value_digits]

/-- A number within the bound is read back from its digits. -/
theorem read?_digits (h : n ≤ bound) : Decimal.read? bound (Decimal.digits n) = some n := by
  have hread := Decimal.read?_eq_some_iff.mpr ⟨h, .inl (decimalText_text n)⟩
  rw [Decimal.text, String.toList_ofList] at hread
  exact hread

end GridClient
