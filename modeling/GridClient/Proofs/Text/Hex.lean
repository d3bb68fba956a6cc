import GridClient.Text.Hex

/-!
# `GridClient.Proofs.Text.Hex` — numbers in hexadecimal digits

## Contents
- `isSome_of_mapM`: what is read item by item.
- `Hex.exists_mapM_value?`: the digits of a number are read back.
- `Hex.notMem_toDigits`, `Hex.toDigits_injective`: there is nothing else among them, and they tell
  the number.
-/

namespace GridClient.Text

/-- A list read item by item has only items that can be read. -/
theorem isSome_of_mapM {α β : Type} {f : α → Option β} {items : List α} {read : List β}
    (h : items.mapM f = some read) : ∀ item ∈ items, (f item).isSome := by
  induction items generalizing read with
  | nil => intro item hitem; exact absurd hitem (by simp)
  | cons x items ih =>
      rw [List.mapM_cons] at h
      obtain ⟨y, hy, h⟩ := Option.bind_eq_some_iff.mp h
      obtain ⟨ys, hys, -⟩ := Option.bind_eq_some_iff.mp h
      intro item hitem
      rcases List.mem_cons.mp hitem with rfl | hitem
      · rw [hy]; rfl
      · exact ih hys item hitem

namespace Hex

theorem value?_digitChar : ∀ k < 16, value? (Nat.digitChar k) = some k := by decide

/-- Hexadecimal digits are read back, and put together they are the number. -/
theorem exists_mapM_value? (n : Nat) :
    ∃ values, (Nat.toDigits 16 n).mapM value? = some values
      ∧ values.length = (Nat.toDigits 16 n).length
      ∧ values.foldl (fun n digit => n * 16 + digit) 0 = n := by
  induction n using Nat.strongRecOn with
  | ind n ih =>
      by_cases hn : n < 16
      · rw [Nat.toDigits_of_lt_base hn]
        refine ⟨[n], ?_, rfl, by simp⟩
        rw [List.mapM_cons, value?_digitChar n hn]
        rfl
      · -- all digits but the last are those of the sixteenth
        obtain ⟨values, hread, hlength, hvalue⟩ := ih (n / 16) (by omega)
        rw [Nat.toDigits_of_base_le (by decide) (by omega)]
        refine ⟨values ++ [n % 16], ?_, by simp [hlength], ?_⟩
        · have hlast : [(n % 16).digitChar].mapM value? = some [n % 16] := by
            rw [List.mapM_cons, value?_digitChar _ (by omega)]
            rfl
          rw [List.mapM_append, hread, hlast]
          rfl
        · rw [List.foldl_append, hvalue]
          simp only [List.foldl_cons, List.foldl_nil]
          omega

theorem notMem_toDigits {c : Char} (h : value? c = none) (n : Nat) : c ∉ Nat.toDigits 16 n := by
  obtain ⟨values, hread, -⟩ := exists_mapM_value? n
  intro hmem
  have hsome := isSome_of_mapM hread c hmem
  rw [h] at hsome
  exact absurd hsome (by decide)

/-- **A number is told by its digits.** -/
theorem toDigits_injective {m n : Nat} (h : Nat.toDigits 16 m = Nat.toDigits 16 n) : m = n := by
  obtain ⟨values, hread, -, hvalue⟩ := exists_mapM_value? m
  obtain ⟨values', hread', -, hvalue'⟩ := exists_mapM_value? n
  rw [h, hread'] at hread
  obtain rfl := Option.some.inj hread
  exact hvalue.symm.trans hvalue'

end Hex
end GridClient.Text
