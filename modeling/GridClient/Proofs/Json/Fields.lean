import GridClient.Json.Basic
import Mathlib.Data.List.Nodup

/-!
# `GridClient.Proofs.Json.Fields` — members by their keys

The members of an object are in the order in which they were put in, and each key has one place.

## Contents
- `Fields.keys`: the keys in order.
- `get?_eq_some_iff`, `get?_eq_none_of_notMem`: what is found under a key.
- `keys_setAll`, `get?_setAll`: many bindings set in an object's fields.
-/

namespace GridClient

namespace Fields

/-- The keys in order. -/
def keys (fields : Fields) : List String := fields.map Prod.fst

theorem keys_cons (k : String) (v : Json) (fields : Fields) :
    keys ((k, v) :: fields) = k :: keys fields := rfl

theorem get?_eq_none_of_notMem {fields : Fields} {key : String} (h : key ∉ keys fields) :
    get? fields key = none := by
  induction fields with
  | nil => rfl
  | cons f fields ih =>
      obtain ⟨k, v⟩ := f
      rw [keys_cons, List.mem_cons, not_or] at h
      rw [get?_cons, if_neg (Ne.symm h.1), ih h.2]

/-- Among keys that differ, what is found under one is what stands there. -/
theorem get?_eq_some_iff {fields : Fields} (h : (keys fields).Nodup) {key : String}
    {value : Json} : get? fields key = some value ↔ (key, value) ∈ fields := by
  induction fields with
  | nil => simp [get?]
  | cons m fields ih =>
      obtain ⟨k, v⟩ := m
      obtain ⟨hnotMem, hrest⟩ := List.nodup_cons.mp h
      rw [get?_cons, List.mem_cons, Prod.mk.injEq]
      by_cases hk : k = key
      · subst hk
        have hno : (k, value) ∉ fields := fun hmem => hnotMem (List.mem_map.mpr ⟨_, hmem, rfl⟩)
        simp [hno, eq_comm]
      · rw [if_neg hk, ih hrest]
        simp [Ne.symm hk]

/-! ## Setting many fields -/

/-- A key that is there keeps its place, a new one comes last. -/
theorem keys_set (fields : Fields) (key : String) (value : Json) :
    keys (set fields key value)
      = if key ∈ keys fields then keys fields else keys fields ++ [key] := by
  induction fields with
  | nil => rfl
  | cons f fields ih =>
      obtain ⟨k, v⟩ := f
      unfold set
      by_cases h : k = key
      · rw [if_pos h, keys_cons, keys_cons, if_pos (by rw [h]; exact List.mem_cons_self)]
      · have hmem : key ∈ k :: keys fields ↔ key ∈ keys fields := by
          rw [List.mem_cons]
          exact or_iff_right (Ne.symm h)
        rw [if_neg h, keys_cons, ih, keys_cons]
        by_cases hkey : key ∈ keys fields
        · rw [if_pos hkey, if_pos (hmem.mpr hkey)]
        · rw [if_neg hkey, if_neg (mt hmem.mp hkey), List.cons_append]

/-- The new keys among the bindings follow the keys that are there. -/
theorem keys_setAll (fields : Fields) {bindings : Fields} (h : (keys bindings).Nodup) :
    keys (setAll fields bindings)
      = keys fields ++ (keys bindings).filter fun key => key ∉ keys fields := by
  induction bindings generalizing fields with
  | nil => exact (List.append_nil _).symm
  | cons b bindings ih =>
      obtain ⟨key, value⟩ := b
      rw [keys_cons, List.nodup_cons] at h
      show keys (setAll (set fields key value) bindings) = _
      rw [ih _ h.2, keys_set, keys_cons]
      by_cases hkey : key ∈ keys fields
      · rw [if_pos hkey, List.filter_cons_of_neg (by simpa using hkey)]
      · -- the key is new, and no later binding is one for it
        rw [if_neg hkey, List.filter_cons_of_pos (by simpa using hkey), List.append_assoc,
          List.singleton_append]
        refine congrArg (fun l => keys fields ++ key :: l) (List.filter_congr fun k hk => ?_)
        have hne : k ≠ key := fun heq => h.1 (heq ▸ hk)
        simp [hne]

/-- A key that is bound has the value that it is bound to, and any other the value it had. -/
theorem get?_setAll (fields : Fields) {bindings : Fields} (h : (keys bindings).Nodup)
    (key : String) :
    get? (setAll fields bindings) key = (get? bindings key).or (get? fields key) := by
  induction bindings generalizing fields with
  | nil => rfl
  | cons b bindings ih =>
      obtain ⟨k, v⟩ := b
      rw [keys_cons, List.nodup_cons] at h
      show get? (setAll (set fields k v) bindings) key = _
      rw [ih _ h.2, get?_set, get?_cons]
      by_cases hk : k = key
      · rw [if_pos hk, if_pos hk, get?_eq_none_of_notMem (hk ▸ h.1)]
        rfl
      · rw [if_neg hk, if_neg hk]

theorem setAll_eq_nil_iff {fields bindings : Fields} (h : (keys bindings).Nodup) :
    setAll fields bindings = [] ↔ fields = [] ∧ bindings = [] := by
  have hnil : ∀ fields : Fields, fields = [] ↔ keys fields = [] := fun fields =>
    List.map_eq_nil_iff.symm
  rw [hnil, keys_setAll fields h, List.append_eq_nil_iff, ← hnil]
  refine and_congr_right fun hfields => ?_
  -- without fields every key is new
  have hall : (keys bindings).filter (fun key => key ∉ keys fields) = keys bindings :=
    List.filter_eq_self.mpr (by simp [hfields, keys])
  rw [hall, hnil]

end Fields

end GridClient
