import GridClient.Error
import GridClient.Json.Record
import GridClient.Text.Cut

/-!
# `GridClient.Reference` — references to objects

A reference is `type/payload:path`: the type ends at the first `/`, the payload at the first `:`
after it. The payload is opaque; the path often reads `value/view`.

## Contents
- `Reference`, `Reference.text`, `Reference.parse?`, with the law that reading accepts exactly
  the written forms.
- `Reference.displayParts?`: value and view.
- `Reference.toJson`, `Reference.ofDocument?`: a reference as a JSON string.
- `objectTypeOf?`: the type that any text with a `/` begins with, with the law that says exactly
  when there is one.
-/

namespace GridClient

open Text

/-- A reference in its three parts. -/
structure Reference where
  objectType : List Char
  payload : List Char
  path : List Char
  objectType_ne_nil : objectType ≠ []
  slash_notMem : '/' ∉ objectType
  colon_notMem : ':' ∉ payload

namespace Reference

@[ext] theorem ext {r s : Reference} (ht : r.objectType = s.objectType)
    (hp : r.payload = s.payload) (hd : r.path = s.path) : r = s := by
  cases r; cases s; cases ht; cases hp; cases hd; rfl

/-- The written form. -/
def chars (r : Reference) : List Char := r.objectType ++ '/' :: r.payload ++ ':' :: r.path

def text (r : Reference) : String := String.ofList r.chars

/-- The reference that a text writes, if it writes one. -/
def parseChars? (cs : List Char) : Option Reference :=
  match ht : cutFirst '/' cs with
  | none => none
  | some (objectType, rest) =>
    match hp : cutFirst ':' rest with
    | none => none
    | some (payload, path) =>
      if h : objectType = [] then none
      else some ⟨objectType, payload, path, h, (cutFirst_eq_some_iff.1 ht).2,
        (cutFirst_eq_some_iff.1 hp).2⟩

def parse? (s : String) : Option Reference := parseChars? s.toList

/-- Reading that names the text in the failure. -/
def parse (s : String) : Checked Reference :=
  match parse? s with
  | some r => .ok r
  | none => .error (.invalidReference s)

/-- Reading accepts exactly what writing produces. -/
theorem parseChars?_eq_some_iff {cs : List Char} {r : Reference} :
    parseChars? cs = some r ↔ cs = r.chars := by
  constructor
  · intro h
    unfold parseChars? at h
    split at h
    · cases h
    · rename_i ht
      split at h
      · cases h
      · rename_i hp
        split at h
        · cases h
        · cases h
          exact (cutFirst_eq_some_iff.1 ht).1.trans
            (by simp [chars, (cutFirst_eq_some_iff.1 hp).1])
  · rintro rfl
    have ht : cutFirst '/' r.chars = some (r.objectType, r.payload ++ ':' :: r.path) :=
      cutFirst_eq_some_iff.2 ⟨by simp [chars], r.slash_notMem⟩
    have hp : cutFirst ':' (r.payload ++ ':' :: r.path) = some (r.payload, r.path) :=
      cutFirst_eq_some_iff.2 ⟨rfl, r.colon_notMem⟩
    unfold parseChars?
    split
    · rename_i h
      rw [ht] at h
      cases h
    · rename_i h
      rw [ht] at h
      cases h
      split
      · rename_i h
        rw [hp] at h
        cases h
      · rename_i h
        rw [hp] at h
        cases h
        simp [r.objectType_ne_nil]

theorem parse?_eq_some_iff {s : String} {r : Reference} : parse? s = some r ↔ s = r.text := by
  rw [parse?, parseChars?_eq_some_iff, text, ← String.toList_inj, String.toList_ofList]

/-- The two parts of the path around its last `/`. -/
def displayParts? (r : Reference) : Option (String × String) :=
  (cutLast '/' r.path).map fun (value, view) => (String.ofList value, String.ofList view)

/-- Whether the reference names an object of the given type. -/
def isType (r : Reference) (objectType : String) : Bool := r.objectType == objectType.toList

def toJson (r : Reference) : Json := .string r.text

/-- The reference that a JSON string writes. -/
def ofDocument? (d : Document) : Option Reference := d.toText? >>= parse?

end Reference

/-- What stands before the first `/`, if that is anything. -/
def objectTypeOf? (s : String) : Option String :=
  match cutFirst? '/' s with
  | none => none
  | some (objectType, _) => if objectType = "" then none else some objectType

/-- The type is what stands before the first `/`. -/
theorem objectTypeOf?_eq_some_iff {s objectType : String} :
    objectTypeOf? s = some objectType
      ↔ objectType ≠ "" ∧ '/' ∉ objectType.toList ∧ ∃ rest, s = objectType ++ "/" ++ rest := by
  have hcut : ∀ rest, s = objectType ++ "/" ++ rest
      ↔ s.toList = objectType.toList ++ '/' :: rest.toList := by
    intro rest
    rw [← String.toList_inj]
    simp
  unfold objectTypeOf?
  constructor
  · intro h
    split at h
    · cases h
    · rename_i before rest hparts
      split at h
      · cases h
      · rename_i hne
        cases h
        obtain ⟨hs, hslash⟩ := cutFirst?_eq_some_iff.1 hparts
        exact ⟨hne, hslash, rest, (hcut rest).2 hs⟩
  · rintro ⟨hne, hslash, rest, hs⟩
    have hparts := cutFirst?_eq_some_iff.2 ⟨(hcut rest).1 hs, hslash⟩
    rw [hparts]
    exact if_neg hne

/-- There is none exactly where there is no `/`, or one at the very beginning. -/
theorem objectTypeOf?_eq_none_iff {s : String} :
    objectTypeOf? s = none ↔ '/' ∉ s.toList ∨ ∃ rest, s = "/" ++ rest := by
  unfold objectTypeOf?
  split
  · rename_i hparts
    exact ⟨fun _ => .inl (cutFirst?_eq_none_iff.1 hparts), fun _ => rfl⟩
  · rename_i before rest hparts
    obtain ⟨hs, hslash⟩ := cutFirst?_eq_some_iff.1 hparts
    have hmem : '/' ∈ s.toList := by simp [hs]
    have hempty : before = "" ↔ ∃ rest, s = "/" ++ rest := by
      constructor
      · rintro rfl
        exact ⟨rest, String.toList_inj.1 (by simpa using hs)⟩
      · rintro ⟨rest', rfl⟩
        cases hbefore : before.toList with
        | nil => exact String.toList_eq_nil_iff.1 hbefore
        | cons c cs =>
          rw [hbefore] at hs hslash
          have hc : c = '/' := (List.cons.inj (by simpa using hs)).1.symm
          exact absurd (hc ▸ List.mem_cons_self) hslash
    rw [← hempty]
    simp [hmem]

end GridClient
