import GridClient.Proofs.Allocation.Assigned
import GridClient.Proofs.Reference.Grammar

/-!
# `GridClient.Proofs.Allocation.Reading` — what is read of an allocation, from any text

The value and the view of an allocation stand around the last `/` of a reference's path, which
begins after the first `:` that follows the first `/` of the reference. A value may have any of these
separators itself. So there are four kinds of texts: those that are no reference, references whose
path has no `/`, references with nothing before the last one, and those that show a value and a
view. Each kind has its own outcome.

## Contents
- `ofReference_of_not_spells`, `ofReference_of_no_parts`, `ofReference_of_parts`: what is read from
  a text, by its form.
- `exists_parts_or_notMem`: a path has parts, or it has no `/`.
- `Assigned.ReadAs`: the four kinds of texts with their outcomes; `ofReference_eq_iff`: reading has
  that outcome.
- `Assigned.reading_inverts_layout`: which texts are read, and why the others are refused.
-/

namespace GridClient

open Text
open Reference (Spells)

namespace Assigned

variable {s t p d value view : String}

/-! ## By the form of the text -/

theorem ofReference_of_not_spells (h : ¬ ∃ t p d, Spells s t p d) :
    ofReference s = .error (.invalidReference s) := by
  unfold ofReference
  rw [Reference.parse_of_not_spells h]
  rfl

/-- What is read from a reference is settled by the parts of its path. -/
theorem ofReference_of_spells (h : Spells s t p d) :
    ∃ r : Reference, String.ofList r.path = d ∧ r.ReadFrom s
      ∧ ofReference s = match r.displayParts? with
        | none => refuse (.nothingAllocated s)
        | some (value, view) =>
          if value = "" then refuse (.emptyAllocated s) else .ok ⟨value, view⟩ := by
  obtain ⟨r, hparse, -, -, hpath⟩ := h.exists_parse
  refine ⟨r, hpath, ?_, ?_⟩
  · rw [Reference.parse_eq_ok_iff.mp hparse]
    exact r.readFrom_text
  · unfold ofReference
    rw [hparse]
    rfl

theorem ofReference_of_no_parts (h : Spells s t p d) (hslash : '/' ∉ d.toList) :
    ofReference s = .error (.validation (.nothingAllocated s)) := by
  obtain ⟨r, rfl, hread, heq⟩ := ofReference_of_spells h
  have hnone : r.displayParts? = none := by
    rw [← Option.not_isSome_iff_eq_none, hread.isSome_displayParts?_iff]
    rwa [String.toList_ofList] at hslash
  rw [heq, hnone]
  rfl

theorem ofReference_of_parts (h : Spells s t p (value ++ "/" ++ view))
    (hview : '/' ∉ view.toList) :
    ofReference s
      = if value = "" then .error (.validation (.emptyAllocated s)) else .ok ⟨value, view⟩ := by
  obtain ⟨r, hpath, hread, heq⟩ := ofReference_of_spells h
  have hparts : r.displayParts? = some (value, view) :=
    (hread.displayParts?_eq_some_iff value view).mpr ⟨hpath, hview⟩
  rw [heq, hparts]
  rfl

/-- A path has parts around its last `/`, or none at all. -/
theorem exists_parts_or_notMem (d : String) :
    (∃ value view, d = value ++ "/" ++ view ∧ '/' ∉ view.toList) ∨ '/' ∉ d.toList := by
  cases hcut : cutLast '/' d.toList with
  | none => exact .inr (cutLast_eq_none_iff.mp hcut)
  | some parts =>
      obtain ⟨before, after⟩ := parts
      obtain ⟨heq, hafter⟩ := cutLast_eq_some_iff.mp hcut
      refine .inl ⟨String.ofList before, String.ofList after, ?_, ?_⟩
      · rw [← String.toList_inj, heq]
        simp
      · rw [String.toList_ofList]
        exact hafter

/-! ## The four kinds of texts -/

/-- What is read from a text: a value and a view that stand around the last `/` of a reference's
path; or a refusal of a reference with nothing before that `/`, of one without any, or of what is no
reference. -/
inductive ReadAs (s : String) : Checked Assigned → Prop
  | shown {t p : String} {a : Assigned} (h : Spells s t p (a.value ++ "/" ++ a.view))
    (hview : '/' ∉ a.view.toList) (hvalue : a.value ≠ "") : ReadAs s (.ok a)
  | empty {t p view : String} (h : Spells s t p ("/" ++ view)) (hview : '/' ∉ view.toList) :
    ReadAs s (.error (.validation (.emptyAllocated s)))
  | nothing {t p d : String} (h : Spells s t p d) (hslash : '/' ∉ d.toList) :
    ReadAs s (.error (.validation (.nothingAllocated s)))
  | noReference (h : ¬ ∃ t p d, Spells s t p d) : ReadAs s (.error (.invalidReference s))

theorem readAs_ofReference (s : String) : ReadAs s (ofReference s) := by
  by_cases hspells : ∃ t p d, Spells s t p d
  · obtain ⟨t, p, d, h⟩ := hspells
    obtain ⟨value, view, rfl, hview⟩ | hslash := exists_parts_or_notMem d
    · rw [ofReference_of_parts h hview]
      by_cases hvalue : value = ""
      · subst hvalue
        exact .empty h hview
      · rw [if_neg hvalue]
        exact .shown h hview hvalue
    · rw [ofReference_of_no_parts h hslash]
      exact .nothing h hslash
  · rw [ofReference_of_not_spells hspells]
    exact .noReference hspells

/-- **Reading has the outcome of the kind of text.** -/
theorem ofReference_eq_iff {outcome : Checked Assigned} :
    ofReference s = outcome ↔ ReadAs s outcome := by
  constructor
  · rintro rfl
    exact readAs_ofReference s
  · intro h
    cases h with
    | shown h hview hvalue => rw [ofReference_of_parts h hview, if_neg hvalue]
    | @empty t p view h hview =>
        have hparts : Spells s t p ("" ++ "/" ++ view) := h
        rw [ofReference_of_parts hparts hview, if_pos rfl]
    | nothing h hslash => exact ofReference_of_no_parts h hslash
    | noReference h => exact ofReference_of_not_spells h

/-! ## The theorem -/

/-- **Which texts are read, and why the others are refused.** A value and a view are read exactly
from `type/payload:value/view`, whatever separators the value has, and every other text is refused.
It is refused as no reference exactly if it is none, and by the local check exactly if it is one
whose path has no `/` or has nothing before the last. Each refusal names the text. -/
theorem reading_inverts_layout (s : String) :
    (∀ a : Assigned, ofReference s = .ok a ↔ a.ShownBy s)
      ∧ ((∃ e, ofReference s = .error e) ↔ ¬ ∃ a : Assigned, a.ShownBy s)
      ∧ (∀ text, ofReference s = .error (.invalidReference text)
        ↔ text = s ∧ ¬ ∃ t p d, Spells s t p d)
      ∧ ∀ fault, ofReference s = .error (.validation fault)
        ↔ ∃ t p d, Spells s t p d
          ∧ ((fault = .nothingAllocated s ∧ '/' ∉ d.toList)
            ∨ (fault = .emptyAllocated s ∧ ∃ view, d = "/" ++ view ∧ '/' ∉ view.toList)) := by
  refine ⟨fun a => ofReference_eq_ok_iff, ?_, ?_, ?_⟩
  · constructor
    · rintro ⟨e, he⟩ ⟨a, ha⟩
      rw [ofReference_eq_ok_iff.mpr ha] at he
      cases he
    · intro h
      exact ofReference_error fun a ha => h ⟨a, ha⟩
  · intro text
    rw [ofReference_eq_iff]
    constructor
    · intro h
      cases h with
      | noReference h => exact ⟨rfl, h⟩
    · rintro ⟨rfl, h⟩
      exact .noReference h
  · intro fault
    rw [ofReference_eq_iff]
    constructor
    · intro h
      cases h with
      | empty h hview => exact ⟨_, _, _, h, .inr ⟨rfl, _, rfl, hview⟩⟩
      | nothing h hslash => exact ⟨_, _, _, h, .inl ⟨rfl, hslash⟩⟩
    · rintro ⟨t, p, d, h, ⟨rfl, hslash⟩ | ⟨rfl, view, rfl, hview⟩⟩
      · exact .nothing h hslash
      · exact .empty h hview

/-- The value may have both separators, and a type a `:`. -/
example : ofReference "record:a/ZG5z:2001:db8::/64/default" = .ok ⟨"2001:db8::/64", "default"⟩ := by
  decide

end Assigned
end GridClient
