import GridClient.Allocation.Assigned
import GridClient.Proofs.Checked

/-!
# `GridClient.Proofs.Allocation.Assigned` — what a reference shows of an allocation

A reference shows a value and a view when it reads `type/payload:value/view`. The type ends at the
first `/`, the payload at the first `:` after it and the value at the last `/`, so the form fixes
its parts, whatever separators a value of the one kind or the other has.

## Contents
- `Assigned.ShownBy`: the form.
- `ofReference_eq_ok_iff`: reading accepts exactly that form, and yields its value and view.
-/

namespace GridClient

open Text

namespace Assigned

/-- A reference shows a value and a view: it reads `type/payload:value/view`. -/
def ShownBy (a : Assigned) (reference : String) : Prop :=
  ∃ objectType payload : String,
    reference = objectType ++ "/" ++ payload ++ ":" ++ a.value ++ "/" ++ a.view
    ∧ objectType ≠ "" ∧ '/' ∉ objectType.toList ∧ ':' ∉ payload.toList
    ∧ a.value ≠ "" ∧ '/' ∉ a.view.toList

/-- The parts of a reference that can be read, around the last `/` of its path. -/
theorem displayParts?_eq_some_iff {r : Reference} {value view : String} :
    r.displayParts? = some (value, view)
      ↔ r.path = value.toList ++ '/' :: view.toList ∧ '/' ∉ view.toList := by
  unfold Reference.displayParts?
  rw [Option.map_eq_some_iff]
  constructor
  · rintro ⟨⟨before, after⟩, hcut, hparts⟩
    cases hparts
    rw [String.toList_ofList, String.toList_ofList]
    exact cutLast_eq_some_iff.mp hcut
  · intro h
    refine ⟨(value.toList, view.toList), cutLast_eq_some_iff.mpr h, ?_⟩
    show (String.ofList value.toList, String.ofList view.toList) = _
    rw [String.ofList_toList, String.ofList_toList]

/-- Reading succeeds on a reference whose path has a value and a view. -/
theorem ofReference_eq_ok_iff_displayParts? {reference : String} {a : Assigned} :
    ofReference reference = .ok a
      ↔ ∃ r, Reference.parse? reference = some r ∧ r.displayParts? = some (a.value, a.view)
          ∧ a.value ≠ "" := by
  unfold ofReference
  rw [bind_eq_ok]
  constructor
  · rintro ⟨r, hparse, h⟩
    unfold Reference.parse at hparse
    split at hparse
    · cases hparse
      split at h
      · cases h
      · split at h
        · cases h
        · rename_i hr _ _ _ hparts hne
          cases h
          exact ⟨r, hr, hparts, hne⟩
    · cases hparse
  · rintro ⟨r, hparse, hparts, hne⟩
    refine ⟨r, by unfold Reference.parse; rw [hparse], ?_⟩
    rw [hparts]
    exact if_neg hne

/-- **Reading accepts exactly the form `type/payload:value/view`.** -/
theorem ofReference_eq_ok_iff {reference : String} {a : Assigned} :
    ofReference reference = .ok a ↔ a.ShownBy reference := by
  rw [ofReference_eq_ok_iff_displayParts?]
  constructor
  · rintro ⟨r, hparse, hparts, hne⟩
    obtain ⟨hpath, hview⟩ := displayParts?_eq_some_iff.mp hparts
    refine ⟨String.ofList r.objectType, String.ofList r.payload, ?_, ?_, ?_, ?_, hne, hview⟩
    · rw [Reference.parse?_eq_some_iff.mp hparse, ← String.toList_inj]
      simp [Reference.text, Reference.chars, hpath]
    · intro h
      exact r.objectType_ne_nil (by simpa using congrArg String.toList h)
    · rw [String.toList_ofList]
      exact r.slash_notMem
    · rw [String.toList_ofList]
      exact r.colon_notMem
  · rintro ⟨objectType, payload, rfl, htype, hslash, hcolon, hne, hview⟩
    let r : Reference :=
      { objectType := objectType.toList, payload := payload.toList
        path := a.value.toList ++ '/' :: a.view.toList
        objectType_ne_nil := fun h => htype (String.toList_inj.mp h)
        slash_notMem := hslash, colon_notMem := hcolon }
    refine ⟨r, Reference.parse?_eq_some_iff.mpr ?_, displayParts?_eq_some_iff.mpr ⟨rfl, hview⟩, hne⟩
    rw [← String.toList_inj]
    simp [r, Reference.text, Reference.chars]

/-- Any other reference is refused. -/
theorem ofReference_error {reference : String} (h : ∀ a : Assigned, ¬ a.ShownBy reference) :
    ∃ e, ofReference reference = .error e := by
  cases hread : ofReference reference with
  | error e => exact ⟨e, rfl⟩
  | ok a => exact absurd (ofReference_eq_ok_iff.mp hread) (h a)

/-- The refusal is that of a local check. -/
theorem isValidation_of_ofReference {reference : String} {e : Error}
    (h : ofReference reference = .error e) : e.isValidation = true := by
  unfold ofReference Reference.parse at h
  split at h
  · simp only [bind, Except.bind] at h
    split at h
    · cases h
      rfl
    · split at h
      · cases h
        rfl
      · cases h
  · cases h
    rfl

end Assigned
end GridClient
