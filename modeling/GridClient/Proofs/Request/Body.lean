import GridClient.Proofs.Json.RoundTrip
import GridClient.Request.Endpoint

/-!
# `GridClient.Proofs.Request.Body` — what a body holds

The body of a search is made by setting the criteria, key by key, in the object's fields. A key
that is there keeps its place and gets a new value; all others follow in the order in which they
are set, which for criteria is the order of the attributes' names.

## Contents
- `read_bodyOctets`: a body is read back; `Request.Bears`: the fields that a request bears.
- `Criteria.get?_wireFields`: criteria as fields of a body.
- `Endpoint.body_of_request`: the body of every request.
-/

namespace GridClient

/-! ## Fields in a body -/

/-- **The octets of a body are read back** as the object with its fields. -/
theorem read_bodyOctets (fields : Fields) :
    Document.read (bodyOctets fields) = some (Json.object fields).document :=
  Document.read_text (.object fields)

/-- A request bears fields: its body is the text of the JSON object that has them, in their order,
and whoever reads the body finds that object in it. -/
structure Request.Bears (q : Request) (fields : Fields) : Prop where
  text : q.body = some (Text.Utf8.encode (Json.object fields).text)
  read : q.body >>= Document.read = some (Json.object fields).document

theorem Request.bears_of_body {q : Request} {fields : Fields}
    (h : q.body = some (bodyOctets fields)) : q.Bears fields where
  text := h
  read := by
    rw [h]
    exact read_bodyOctets fields

/-! ## Criteria in a body -/

theorem NameMap.eq_empty_iff {α : Type} {m : NameMap α} : m = ∅ ↔ ∀ name, m.get? name = none :=
  ⟨fun h name => by rw [h, get?_empty], fun h => ext_get? h⟩

namespace Criteria

theorem wireKey_injective {a b : String} (h : wireKey a = wireKey b) : a = b := by
  have hchars := congrArg String.toList h
  rw [wireKey, wireKey, String.toList_append, String.toList_append] at hchars
  exact String.toList_inj.mp (List.append_cancel_left hchars)

theorem keys_wireFields (criteria : Criteria) :
    Fields.keys criteria.wireFields = criteria.keys.map wireKey := by
  simp [Fields.keys, wireFields, wireEntries, NameMap.keys]

theorem nodup_keys_wireFields (criteria : Criteria) :
    (Fields.keys criteria.wireFields).Nodup := by
  rw [keys_wireFields]
  exact List.pairwise_map.mpr
    (criteria.keys_increasing.imp fun hlt heq => NameMap.ne_of_lt hlt (wireKey_injective heq))

theorem get?_wireFields (criteria : Criteria) (name : String) :
    Fields.get? criteria.wireFields (wireKey name) = (criteria.get? name).map Json.string := by
  have h : ∀ entries : List (String × String),
      Fields.get? (entries.map fun e => (wireKey e.1, Json.string e.2)) (wireKey name)
        = (NameMap.find name entries).map Json.string := by
    intro entries
    induction entries with
    | nil => rfl
    | cons e entries ih =>
        rw [List.map_cons, Fields.get?_cons, ih, NameMap.find]
        by_cases heq : e.1 = name
        · rw [if_pos (congrArg wireKey heq), if_pos heq]
          rfl
        · rw [if_neg (mt wireKey_injective heq), if_neg heq]
  have hfields : criteria.wireFields
      = criteria.entries.map fun e => (wireKey e.1, Json.string e.2) := by
    simp [wireFields, wireEntries]
  rw [hfields]
  exact h criteria.entries

theorem get?_wireFields_of_ne {criteria : Criteria} {key : String}
    (h : ∀ name, key ≠ wireKey name) : Fields.get? criteria.wireFields key = none := by
  refine Fields.get?_eq_none_of_notMem fun hmem => ?_
  rw [keys_wireFields] at hmem
  obtain ⟨name, -, hname⟩ := List.mem_map.mp hmem
  exact h name hname.symm

theorem wireFields_eq_nil_iff {criteria : Criteria} : criteria.wireFields = [] ↔ criteria = ∅ := by
  have hfields : criteria.wireFields = [] ↔ criteria.entries = [] := by
    simp [wireFields, wireEntries]
  rw [hfields]
  exact ⟨fun h => NameMap.ext h, fun h => by rw [h]; rfl⟩

theorem overlay_eq_empty_iff {criteria other : Criteria} :
    criteria.overlay other = ∅ ↔ criteria = ∅ ∧ other = ∅ := by
  simp only [NameMap.eq_empty_iff, overlay, NameMap.get?_union, Option.or_eq_none_iff]
  exact ⟨fun h => ⟨fun name => (h name).2, fun name => (h name).1⟩,
    fun h name => ⟨h.2 name, h.1 name⟩⟩

end Criteria

/-! ## Searches -/

/-- The fields of a search: an object's own fields, each in its place, and the criteria. A
criterion for an attribute stands under the attribute's name with a star. -/
structure Searches (fields own : Fields) (criterion : String → Option String) : Prop where
  starred : ∀ name, fields.get? ("*" ++ name)
    = ((criterion name).map Json.string).or (own.get? ("*" ++ name))
  plain : ∀ key, (∀ name, key ≠ "*" ++ name) → fields.get? key = own.get? key
  /-- The object's own keys come first; the others are those of the criteria that have no place
  yet, in the order of the names. -/
  order : ∃ added : List String,
    Fields.keys fields = Fields.keys own ++ added.map ("*" ++ ·) ∧ added.Pairwise (· < ·)
    ∧ ∀ name, name ∈ added ↔ (criterion name).isSome ∧ "*" ++ name ∉ Fields.keys own
  nodup : (Fields.keys own).Nodup → (Fields.keys fields).Nodup

/-- **Criteria set in an object's fields make a search.** -/
theorem searches_setAll (own : Fields) (criteria : Criteria) :
    Searches (Fields.setAll own criteria.wireFields) own criteria.get? where
  starred name := by
    rw [Fields.get?_setAll own criteria.nodup_keys_wireFields]
    exact congrArg (Option.or · _) (criteria.get?_wireFields name)
  plain key hkey := by
    rw [Fields.get?_setAll own criteria.nodup_keys_wireFields,
      Criteria.get?_wireFields_of_ne hkey, Option.none_or]
  order := by
    refine ⟨criteria.keys.filter fun name => "*" ++ name ∉ Fields.keys own, ?_,
      criteria.keys_increasing.filter _, fun name => ?_⟩
    · rw [Fields.keys_setAll own criteria.nodup_keys_wireFields, criteria.keys_wireFields,
        List.filter_map]
      rfl
    · rw [List.mem_filter, NameMap.mem_keys_iff, decide_eq_true_eq]
      exact Iff.rfl
  nodup hown := by
    rw [Fields.keys_setAll own criteria.nodup_keys_wireFields, List.nodup_append]
    refine ⟨hown, criteria.nodup_keys_wireFields.filter _, fun a ha b hb heq => ?_⟩
    -- what follows the object's own keys is none of them
    exact of_decide_eq_true (List.mem_filter.mp hb).2 (heq ▸ ha)

/-! ## Bodies -/

/-- The fields of the body of a search. -/
def searchFields (object : Option Snapshot) (query : Query) : Fields :=
  Fields.setAll ((object.map Snapshot.fields).getD []) (searchCriteria object query).wireFields

theorem requestBody_search (object : Option Snapshot) (query : Query) :
    requestBody .get object "" query
      = if searchFields object query = [] then none else some (searchFields object query) := by
  show (if (searchFields object query).isEmpty = true then none
    else some (searchFields object query)) = _
  simp only [List.isEmpty_iff]

theorem searchFields_eq_nil_iff {object : Option Snapshot} {query : Query} :
    searchFields object query = []
      ↔ (object.map Snapshot.fields).getD [] = []
        ∧ (object.map Snapshot.criteria).getD ∅ = ∅ ∧ query.criteria = ∅ := by
  unfold searchFields searchCriteria
  rw [Fields.setAll_eq_nil_iff (Criteria.nodup_keys_wireFields _), Criteria.wireFields_eq_nil_iff,
    Criteria.overlay_eq_empty_iff]

/-- The criteria of the query win over those of the object. -/
theorem searches_searchFields (object : Option Snapshot) (query : Query) :
    Searches (searchFields object query) ((object.map Snapshot.fields).getD []) fun name =>
      (query.criteria.get? name).or (((object.map Snapshot.criteria).getD ∅).get? name) := by
  have hcriteria : (searchCriteria object query).get? = fun name =>
      (query.criteria.get? name).or (((object.map Snapshot.criteria).getD ∅).get? name) :=
    funext fun name => NameMap.get?_union _ _ name
  rw [← hcriteria]
  exact searches_setAll _ _

/-- **What every request carries.** A search carries the object's fields with the criteria of
object and query, and nothing when there are none of either. A read of one object and a deletion
carry nothing, and a write carries the fields of its object alone. -/
theorem Endpoint.body_of_request (e : Endpoint) (object : Option Snapshot) (query : Query) :
    let own : Fields := (object.map Snapshot.fields).getD []
    let criteria : Criteria := (object.map Snapshot.criteria).getD ∅
    let search := e.request .get object "" query
    (search.body = none ↔ own = [] ∧ criteria = ∅ ∧ query.criteria = ∅)
    ∧ (search.body ≠ none → ∃ fields : Fields, search.Bears fields
        ∧ Searches fields own fun name => (query.criteria.get? name).or (criteria.get? name))
    ∧ ∀ reference,
        let create := e.request .create object reference query
        let update := e.request .update object reference query
        (reference ≠ "" → (e.request .get object reference query).body = none)
        ∧ (e.request .delete object reference query).body = none
        ∧ (object = none → create.body = none ∧ update.body = none)
        ∧ ∀ o, object = some o → create.Bears o.fields ∧ update.Bears o.fields := by
  intro own criteria search
  have hsearch : search.body = (requestBody .get object "" query).map bodyOctets := rfl
  rw [requestBody_search] at hsearch
  refine ⟨?_, fun hbody => ?_, fun reference => ⟨fun hne => ?_, rfl, ?_, ?_⟩⟩
  · rw [← searchFields_eq_nil_iff, hsearch]
    by_cases hnil : searchFields object query = []
    · rw [if_pos hnil]
      exact ⟨fun _ => hnil, fun _ => rfl⟩
    · rw [if_neg hnil]
      exact ⟨nofun, fun h => absurd h hnil⟩
  · refine ⟨searchFields object query, ?_, searches_searchFields object query⟩
    by_cases hnil : searchFields object query = []
    · rw [if_pos hnil] at hsearch
      exact absurd hsearch hbody
    · rw [if_neg hnil] at hsearch
      exact Request.bears_of_body hsearch
  · show (requestBody .get object reference query).map bodyOctets = none
    unfold requestBody
    rw [if_neg hne]
    rfl
  · rintro rfl
    exact ⟨rfl, rfl⟩
  · rintro o rfl
    exact ⟨Request.bears_of_body rfl, Request.bears_of_body rfl⟩

end GridClient
