import GridClient.Proofs.Allocation.Assigned
import GridClient.Proofs.Json.Record
import GridClient.Proofs.Json.RoundTrip
import GridClient.Proofs.Reference.Offsets

/-!
# `GridClient.Proofs.Reference.Grammar` — which texts are references

A text is a reference when it reads `type/payload:path`, with a type that is not empty and has no
`/`, and a payload that has no `:`. The form fixes its parts: the type ends at the first `/` and the
payload at the first `:` after it, whatever stands in the path. So reading is no more than taking
the parts, and what was read gives back the text, its parts and its type.

## Contents
- `Reference.Spells`: the form; `spells_iff`: reading accepts exactly that form, with its parts.
- `Reference.ReadFrom`: what a reference gives back of the text that it was read from.
- `ofDocument?_read_eq_some_iff`: reading from JSON.
- `Reference.grammar`: all of it, for every text.
-/

namespace GridClient

open Text

namespace Reference

variable {s t p d : String} {r : Reference}

/-! ## The form -/

/-- A text reads `type/payload:path`. -/
structure Spells (s t p d : String) : Prop where
  eq_append : s = t ++ "/" ++ p ++ ":" ++ d
  type_ne_empty : t ≠ ""
  slash_notMem : '/' ∉ t.toList
  colon_notMem : ':' ∉ p.toList

theorem parse_eq_ok_iff : parse s = .ok r ↔ s = r.text := by
  rw [← parse?_eq_some_iff]
  unfold parse
  cases parse? s <;> simp

/-- The text of a reference has the form, with the parts of the reference. -/
theorem spells_text (r : Reference) :
    Spells r.text (String.ofList r.objectType) (String.ofList r.payload)
      (String.ofList r.path) where
  eq_append := r.text_eq_append
  type_ne_empty := fun hempty => r.objectType_ne_nil (String.ofList_eq_empty_iff.mp hempty)
  slash_notMem := by
    rw [String.toList_ofList]
    exact r.slash_notMem
  colon_notMem := by
    rw [String.toList_ofList]
    exact r.colon_notMem

/-- A text of the form is the text of the reference with its parts. -/
theorem Spells.exists_parse (h : Spells s t p d) :
    ∃ r, parse s = .ok r ∧ String.ofList r.objectType = t ∧ String.ofList r.payload = p
      ∧ String.ofList r.path = d := by
  have hne : t.toList ≠ [] := mt String.toList_eq_nil_iff.mp h.type_ne_empty
  let r : Reference := ⟨t.toList, p.toList, d.toList, hne, h.slash_notMem, h.colon_notMem⟩
  refine ⟨r, parse_eq_ok_iff.mpr ?_, String.ofList_toList, String.ofList_toList,
    String.ofList_toList⟩
  rw [h.eq_append, r.text_eq_append]
  simp [r]

/-- **Reading accepts exactly the form**, and takes its parts. -/
theorem spells_iff :
    Spells s t p d ↔ ∃ r, parse s = .ok r ∧ String.ofList r.objectType = t
      ∧ String.ofList r.payload = p ∧ String.ofList r.path = d := by
  constructor
  · exact Spells.exists_parse
  · rintro ⟨r, hparse, rfl, rfl, rfl⟩
    rw [parse_eq_ok_iff.mp hparse]
    exact r.spells_text

/-- The form fixes its parts. -/
theorem Spells.unique {t' p' d' : String} (h : Spells s t p d) (h' : Spells s t' p' d') :
    t = t' ∧ p = p' ∧ d = d' := by
  obtain ⟨r, hparse, rfl, rfl, rfl⟩ := spells_iff.mp h
  obtain ⟨r', hparse', rfl, rfl, rfl⟩ := spells_iff.mp h'
  rw [hparse] at hparse'
  cases hparse'
  exact ⟨rfl, rfl, rfl⟩

/-- What is not of the form is refused in its own name. -/
theorem parse_of_not_spells (h : ¬ ∃ t p d, Spells s t p d) :
    parse s = .error (.invalidReference s) := by
  unfold parse
  cases hparse : parse? s with
  | none => rfl
  | some r =>
      obtain rfl := parse?_eq_some_iff.mp hparse
      exact absurd ⟨_, _, _, r.spells_text⟩ h

/-! ## What is given back -/

/-- What a reference gives back of the text that it was read from: its form, the text itself, in
JSON as well, the parts, which can all be cut out at its places, and its type by the look at the
first `/`. The path has value and view exactly if it has a `/`, and they stand around the last
one. -/
structure ReadFrom (r : Reference) (s : String) : Prop where
  spells : Spells s (String.ofList r.objectType) (String.ofList r.payload) (String.ofList r.path)
  text_eq : r.text = s
  toJson_eq : r.toJson = .string s
  cuts : r.located.Cuts (String.ofList r.objectType) (String.ofList r.payload)
    (String.ofList r.path)
  displayParts?_eq_some_iff : ∀ value view, r.displayParts? = some (value, view)
    ↔ String.ofList r.path = value ++ "/" ++ view ∧ '/' ∉ view.toList
  isSome_displayParts?_iff : r.displayParts?.isSome = true ↔ '/' ∈ r.path
  objectTypeOf?_eq : objectTypeOf? s = some (String.ofList r.objectType)

theorem isSome_displayParts?_iff : r.displayParts?.isSome = true ↔ '/' ∈ r.path := by
  unfold displayParts?
  rw [Option.isSome_map, ← Option.ne_none_iff_isSome, Ne, cutLast_eq_none_iff,
    Classical.not_not]

theorem objectTypeOf?_text (r : Reference) :
    objectTypeOf? r.text = some (String.ofList r.objectType) := by
  have hspells := r.spells_text
  refine objectTypeOf?_eq_some_iff.mpr ⟨hspells.type_ne_empty, hspells.slash_notMem,
    String.ofList r.payload ++ ":" ++ String.ofList r.path, ?_⟩
  rw [r.text_eq_append]
  simp [String.append_assoc]

theorem readFrom_text (r : Reference) : r.ReadFrom r.text where
  spells := r.spells_text
  text_eq := rfl
  toJson_eq := rfl
  cuts := r.cuts_located
  displayParts?_eq_some_iff := by
    intro value view
    rw [Assigned.displayParts?_eq_some_iff, ← String.toList_inj]
    simp
  isSome_displayParts?_iff := isSome_displayParts?_iff
  objectTypeOf?_eq := r.objectTypeOf?_text

/-! ## JSON -/

/-- A body is a reference exactly if it is a JSON string with the text of the reference. -/
theorem ofDocument?_read_eq_some_iff {body : Octets} :
    (Document.read body >>= ofDocument?) = some r
      ↔ Document.read body = some (.string (some r.text)) := by
  cases Document.read body with
  | none => exact ⟨nofun, nofun⟩
  | some doc =>
      show (doc.toText? >>= parse?) = some r ↔ _
      simp only [Option.bind_eq_bind, Option.bind_eq_some_iff, Document.toText?_eq_some_iff,
        parse?_eq_some_iff, exists_eq_right, Option.some.injEq]

/-- **A text is read from JSON as it is read by itself.** -/
theorem ofDocument?_read_string (s : String) :
    (Document.read (Utf8.encode (Json.string s).text) >>= ofDocument?) = parse? s := by
  rw [Document.read_text]
  rfl

/-! ## The theorem -/

/-- **Which texts are references, and what a reference tells.** A text is read exactly if it is of
the form, which fixes its parts; every other text is refused in its own name. A reference gives back
all that it was read from. The search among octets finds its places, and finds none in any other
text; whatever the text, it can be cut after its first `/`, where the second search begins. A
reference is read from JSON exactly where its text is the string. And a text begins with no type
exactly if it has no `/`, or one at its very beginning. -/
theorem grammar (s : String) :
    (∀ t p d, Spells s t p d ↔ ∃ r, parse s = .ok r ∧ String.ofList r.objectType = t
        ∧ String.ofList r.payload = p ∧ String.ofList r.path = d)
      ∧ ((¬ ∃ t p d, Spells s t p d) → parse s = .error (.invalidReference s))
      ∧ (∀ t p d t' p' d', Spells s t p d → Spells s t' p' d' → t = t' ∧ p = p' ∧ d = d')
      ∧ (∀ r, parse s = .ok r → r.ReadFrom s)
      ∧ Located.locate? s = (parse? s).map located
      ∧ (∀ n, (Utf8.encode s).idxOf? (octetOf '/') = some n →
          ∃ rest, Utf8.slice? s (n + 1) (Utf8.encode s).length = some rest
            ∧ Utf8.encode rest = (Utf8.encode s).drop (n + 1))
      ∧ (Document.read (Utf8.encode (Json.string s).text) >>= ofDocument?) = parse? s
      ∧ (∀ body r, (Document.read body >>= ofDocument?) = some r
          ↔ Document.read body = some (.string (some r.text)))
      ∧ (objectTypeOf? s = none ↔ '/' ∉ s.toList ∨ ∃ rest, s = "/" ++ rest) := by
  refine ⟨fun t p d => spells_iff, parse_of_not_spells, fun t p d t' p' d' => Spells.unique,
    fun r hparse => ?_, locate?_eq s, fun n => Utf8.exists_slice?_of_idxOf? toNat_slash,
    ofDocument?_read_string s, fun body r => ofDocument?_read_eq_some_iff,
    objectTypeOf?_eq_none_iff⟩
  rw [parse_eq_ok_iff.mp hparse]
  exact r.readFrom_text

end Reference
end GridClient
