import GridClient.Proofs.Json.Fields
import GridClient.Proofs.Schema.Reading

/-!
# `GridClient.Proofs.Schema.Members` — what is written of an object

An object writes a member for each field of its kind that has a value and is not the server's own,
and its attributes where the kind has them. The names differ, so each member is found by its key.

## Contents
- `Field.wireName_ne_of_readOnly`, `Schema.eq_of_wireName_eq`: names that differ.
- `Object.mem_members_iff`: the members of an object; `keys_sublist_names`: their order.
- `referenceKey_notMem_keys`, `readOnly_notMem_keys`: what is never written.
- `get?_members_field`, `get?_members_attributes`: what is written under a key.
-/

namespace GridClient

/-! ## Names -/

theorem Field.wireName_ne_referenceKey (f : Field) : f.wireName ≠ Schema.referenceKey := by
  cases f <;> decide

theorem Field.wireName_ne_attributesKey (f : Field) : f.wireName ≠ Schema.attributesKey := by
  cases f <;> decide

/-- No other field has the name of one that only the server sets. -/
theorem Field.wireName_ne_of_readOnly {f g : Field} (hf : f.readOnly = true)
    (hg : g.readOnly = false) : g.wireName ≠ f.wireName := by
  have hcases : f = .zone ∨ f = .serviceStatus ∨ f = .userType := by
    cases f <;> first | decide | exact absurd hf (by decide)
  rcases hcases with rfl | rfl | rfl
  all_goals cases g <;> first | decide | exact absurd hg (by decide)

theorem Schema.sublist_names (s : Schema) : (s.fields.map Field.wireName).Sublist s.layout.names :=
  (List.sublist_cons_self _ _).trans (List.sublist_append_left _ _)

/-- The fields of a kind have names that differ. -/
theorem Schema.eq_of_wireName_eq {s : Schema} {f g : Field} (hf : f ∈ s.fields) (hg : g ∈ s.fields)
    (h : f.wireName = g.wireName) : f = g :=
  List.inj_on_of_nodup_map (s.nodup_names.sublist s.sublist_names) hf hg h

theorem Schema.mem_writtenFields {s : Schema} {f : Field} :
    f ∈ s.writtenFields ↔ f ∈ s.fields ∧ f.readOnly = false := by
  simp [writtenFields]

/-! ## Members -/

namespace Object

theorem mem_fieldMembers_iff {values : FieldValues} {fields : List Field} {m : String × Json} :
    m ∈ fieldMembers values fields ↔ ∃ f ∈ fields, ∃ value, values f = some value
      ∧ (f.wireName, f.kind.toJson value) = m := by
  simp only [fieldMembers, List.mem_filterMap, Option.map_eq_some_iff]

theorem keys_fieldMembers_sublist (values : FieldValues) (fields : List Field) :
    (fieldMembers values fields).keys.Sublist (fields.map Field.wireName) := by
  induction fields with
  | nil => exact .slnil
  | cons f fields ih =>
      rw [fieldMembers, List.filterMap_cons]
      cases values f with
      | none => exact ih.cons _
      | some value => exact ih.cons_cons _

/-- The members of an object's own kind are written, in their order. -/
theorem keys_sublist_names (o : Object) :
    o.members.keys.Sublist o.schema.layout.names := by
  have hwritten : (o.schema.writtenFields.map Field.wireName).Sublist
      (o.schema.fields.map Field.wireName) := List.filter_sublist.map _
  have hfields := (keys_fieldMembers_sublist o.values o.schema.writtenFields).trans hwritten
  rw [members, Fields.keys, List.map_append]
  refine .append (hfields.cons _) ?_
  cases o.schema.hasAttributes <;> exact .refl _

theorem nodup_keys (o : Object) : o.members.keys.Nodup :=
  o.schema.nodup_names.sublist o.keys_sublist_names

theorem mem_members_iff {o : Object} {m : String × Json} :
    m ∈ o.members ↔ (∃ f ∈ o.schema.fields, f.readOnly = false ∧ ∃ value, o.values f = some value
        ∧ (f.wireName, f.kind.toJson value) = m)
      ∨ o.schema.hasAttributes = true ∧ m = (Schema.attributesKey, o.attributes.toJson) := by
  rw [members, List.mem_append, mem_fieldMembers_iff]
  refine or_congr ⟨?_, ?_⟩ ?_
  · rintro ⟨f, hf, hvalue⟩
    obtain ⟨hf, hwritten⟩ := Schema.mem_writtenFields.mp hf
    exact ⟨f, hf, hwritten, hvalue⟩
  · rintro ⟨f, hf, hwritten, hvalue⟩
    exact ⟨f, Schema.mem_writtenFields.mpr ⟨hf, hwritten⟩, hvalue⟩
  · cases o.schema.hasAttributes <;> simp

theorem referenceKey_notMem_keys (o : Object) :
    Schema.referenceKey ∉ o.members.keys := by
  intro hmem
  obtain ⟨m, hm, hkey⟩ := List.mem_map.mp hmem
  have hne : Schema.attributesKey ≠ Schema.referenceKey := by decide
  rcases mem_members_iff.mp hm with ⟨f, -, -, value, -, rfl⟩ | ⟨-, rfl⟩
  · exact f.wireName_ne_referenceKey hkey
  · exact hne hkey

theorem readOnly_notMem_keys (o : Object) {f : Field} (hf : f.readOnly = true) :
    f.wireName ∉ o.members.keys := by
  intro hmem
  obtain ⟨m, hm, hkey⟩ := List.mem_map.mp hmem
  rcases mem_members_iff.mp hm with ⟨g, -, hg, value, -, rfl⟩ | ⟨-, rfl⟩
  · exact Field.wireName_ne_of_readOnly hf hg hkey
  · exact f.wireName_ne_attributesKey hkey.symm

/-- What is written for a field of the object's kind. -/
theorem get?_members_field {o : Object} {f : Field} (hf : f ∈ o.schema.fields)
    (hwritten : f.readOnly = false) :
    o.members.get? f.wireName = (o.values f).map f.kind.toJson := by
  refine Option.ext fun j => ?_
  rw [Fields.get?_eq_some_iff o.nodup_keys, mem_members_iff, Option.map_eq_some_iff]
  constructor
  · rintro (⟨g, hg, -, value, hvalue, heq⟩ | ⟨-, heq⟩)
    · obtain rfl := Schema.eq_of_wireName_eq hg hf (congrArg Prod.fst heq)
      exact ⟨value, hvalue, congrArg Prod.snd heq⟩
    · exact absurd (congrArg Prod.fst heq) f.wireName_ne_attributesKey
  · rintro ⟨value, hvalue, rfl⟩
    exact .inl ⟨f, hf, hwritten, value, hvalue, rfl⟩

theorem get?_members_attributes {o : Object} (h : o.schema.hasAttributes = true) :
    o.members.get? Schema.attributesKey = some o.attributes.toJson :=
  (Fields.get?_eq_some_iff o.nodup_keys).mpr (mem_members_iff.mpr (.inr ⟨h, rfl⟩))

end Object

end GridClient
