/-!
# `GridClient.Text.AsciiCase` — comparison without regard to ASCII case

## Contents
- `foldCase`: a text with the letters `A` to `Z` made small; other letters keep their case.
- `sameIgnoringCase`: equality of the folded texts, hence an equivalence.
-/

namespace GridClient.Text

/-- A text with the letters `A` to `Z` made small; all other characters stay as they are. -/
def foldCase (s : String) : List Char := s.toList.map Char.toLower

/-- Whether two texts differ at most in the case of the letters `A` to `Z`. -/
def sameIgnoringCase (a b : String) : Bool := foldCase a == foldCase b

theorem sameIgnoringCase_iff {a b : String} :
    sameIgnoringCase a b = true ↔ foldCase a = foldCase b := by
  simp [sameIgnoringCase]

@[simp] theorem sameIgnoringCase_self (a : String) : sameIgnoringCase a a = true := by
  simp [sameIgnoringCase]

theorem sameIgnoringCase_symm (a b : String) :
    sameIgnoringCase a b = sameIgnoringCase b a := by
  rw [Bool.eq_iff_iff, sameIgnoringCase_iff, sameIgnoringCase_iff, eq_comm]

theorem sameIgnoringCase_trans {a b c : String} (h : sameIgnoringCase a b = true) :
    sameIgnoringCase b c = sameIgnoringCase a c := by
  rw [Bool.eq_iff_iff, sameIgnoringCase_iff, sameIgnoringCase_iff, sameIgnoringCase_iff.1 h]

/-- Texts that differ in case alone are the same to any third. -/
theorem sameIgnoringCase_congr {a b : String} (h : sameIgnoringCase a b = true) (c : String) :
    sameIgnoringCase c a = sameIgnoringCase c b := by
  rw [sameIgnoringCase_symm c a, sameIgnoringCase_symm c b]
  exact (sameIgnoringCase_trans h).symm

end GridClient.Text
