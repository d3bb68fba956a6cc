import GridClient.Attribute.Basic

/-!
# `GridClient.Proofs.Attribute.Merge` — merging attributes, once and again

What a merge leaves under a name is told by that name alone: whether it is removed, whether it is
added, and what was there. So every law of merging is one about a single name, and a case split on
which of the maps and lists have it.

## Contents
- `Attributes.contains_merge_iff`, `get?_merge_of_added`, `get?_merge_of_kept`: what a merge leaves.
- `merge_congr`: the names that are removed count, not how they are listed.
- `merge_self`, `merge_merge`: the same merge again, and another merge after it.
- `merge_laws`: all of these.
-/

namespace GridClient

namespace Attributes

variable {m a : Attributes} {r : List String} {name : String}

/-! ## What a merge leaves -/

theorem contains_merge_iff : (m.merge a r).contains name = true
    ↔ name ∉ r ∧ (a.contains name = true ∨ m.contains name = true) := by
  rw [NameMap.contains, get?_merge, NameMap.contains, NameMap.contains]
  by_cases hremoved : name ∈ r
  · simp [hremoved]
  · simp [hremoved, Option.isSome_or]

theorem get?_merge_of_added (hkept : name ∉ r) (hadded : a.contains name = true) :
    (m.merge a r).get? name = a.get? name := by
  obtain ⟨value, hvalue⟩ := Option.isSome_iff_exists.mp hadded
  rw [get?_merge, if_neg hkept, hvalue]
  rfl

theorem get?_merge_of_kept (hkept : name ∉ r) (hadded : ¬ a.contains name = true) :
    (m.merge a r).get? name = m.get? name := by
  have hnone : a.get? name = none := by simpa [NameMap.contains] using hadded
  rw [get?_merge, if_neg hkept, hnone, Option.none_or]

/-! ## Merges that come to the same -/

/-- Neither the order nor the number of times in which names are removed counts. -/
theorem merge_congr {r' : List String} (h : ∀ name, name ∈ r ↔ name ∈ r') :
    m.merge a r = m.merge a r' :=
  NameMap.ext_get? fun name => by simp only [get?_merge, h name]

/-- A merge that was made changes nothing when it is made again. -/
theorem merge_self : (m.merge a r).merge a r = m.merge a r := by
  refine NameMap.ext_get? fun name => ?_
  rw [get?_merge, get?_merge]
  by_cases hremoved : name ∈ r
  · rw [if_pos hremoved, if_pos hremoved]
  · rw [if_neg hremoved, if_neg hremoved, ← Option.or_assoc, Option.or_self]

/-- **Two merges are one.** Its additions are those of the first that were not removed with it,
overridden by those of the second; its removals are those of the first that the second does not add
again, and those of the second. -/
theorem merge_merge (a₂ : Attributes) (r₂ : List String) :
    (m.merge a r).merge a₂ r₂
      = m.merge ((a.without r).union a₂) (r.filter (fun name => !a₂.contains name) ++ r₂) := by
  refine NameMap.ext_get? fun name => ?_
  have hremoved : name ∈ r.filter (fun name => !a₂.contains name) ++ r₂
      ↔ (name ∈ r ∧ a₂.get? name = none) ∨ name ∈ r₂ := by
    simp [NameMap.contains]
  simp only [get?_merge, NameMap.get?_union, NameMap.get?_without, hremoved]
  by_cases hsecond : name ∈ r₂
  · rw [if_pos hsecond, if_pos (.inr hsecond)]
  · rw [if_neg hsecond]
    cases hadded : a₂.get? name with
    | some value =>
        -- added again: what the first merge did with the name is forgotten
        have hkept : ¬ ((name ∈ r ∧ some value = none) ∨ name ∈ r₂) := by simp [hsecond]
        rw [if_neg hkept, Option.some_or, Option.some_or, Option.some_or]
    | none =>
        by_cases hfirst : name ∈ r
        · rw [if_pos hfirst, if_pos (.inl ⟨hfirst, rfl⟩), Option.none_or]
        · have hkept : ¬ ((name ∈ r ∧ (none : Option AttributeValue) = none) ∨ name ∈ r₂) := by
            simp [hfirst, hsecond]
          rw [if_neg hkept, if_neg hfirst, if_neg hfirst, Option.none_or, Option.none_or]

/-- **The laws of merging attributes.** A merge leaves just the names that are not removed and are
added or were there, an added one with the value that is added and any other with the value that it
had. In which order and how often the removed names are listed does not matter. Merging the same
again changes nothing, and any two merges in sequence are a single one. -/
theorem merge_laws (m a : Attributes) (r : List String) :
    (∀ name, (m.merge a r).contains name = true
      ↔ name ∉ r ∧ (a.contains name = true ∨ m.contains name = true))
    ∧ (∀ name, name ∉ r → a.contains name = true → (m.merge a r).get? name = a.get? name)
    ∧ (∀ name, name ∉ r → ¬ a.contains name = true → (m.merge a r).get? name = m.get? name)
    ∧ (∀ r' : List String, (∀ name, name ∈ r ↔ name ∈ r') → m.merge a r = m.merge a r')
    ∧ (m.merge a r).merge a r = m.merge a r
    ∧ ∀ (a₂ : Attributes) (r₂ : List String), (m.merge a r).merge a₂ r₂
      = m.merge ((a.without r).union a₂) (r.filter (fun name => !a₂.contains name) ++ r₂) :=
  ⟨fun _ => contains_merge_iff, fun _ => get?_merge_of_added, fun _ => get?_merge_of_kept,
    fun _ => merge_congr, merge_self, merge_merge⟩

end Attributes

end GridClient
