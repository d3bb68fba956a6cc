import GridClient.Attribute.Criteria

/-!
# `GridClient.Query` — parameters of a read

## Contents
- `Query`: the fields to return, raw filters, search criteria and the proxy flag.
- `dedup`: the members of a list, each once.
- `Query.selecting`: a choice of fields, each once, in the order of first mention.
-/

namespace GridClient

/-- Parameters of a read. They have no effect on any other request. -/
structure Query where
  /-- The fields to return, in place of the object's own choice unless empty. -/
  returnFields : List String := []
  /-- Raw filters by field name. -/
  filters : NameMap String := ∅
  /-- Criteria on extensible attributes. -/
  criteria : Criteria := ∅
  /-- Whether a grid member hands the search on to the grid master. -/
  forceProxy : Bool := false

/-- The names seen so far with one more, unless it is among them. -/
def see (seen : List String) (name : String) : List String :=
  if seen.contains name then seen else seen ++ [name]

/-- The members of a list, each at its first place only. -/
def dedup (names : List String) : List String := names.foldl see []

theorem mem_see {seen : List String} {name x : String} :
    x ∈ see seen name ↔ x ∈ seen ∨ x = name := by
  unfold see
  split
  · rename_i h
    have hmem : name ∈ seen := List.contains_iff_mem.1 h
    exact ⟨Or.inl, fun hx => hx.elim id fun e => e ▸ hmem⟩
  · simp

namespace Query

/-- Parameters that set nothing but the proxy flag. -/
def proxied (forceProxy : Bool) : Query := { forceProxy }

/-- The query with the given fields to return, each once. -/
def selecting (query : Query) (fields : List String) : Query :=
  { query with returnFields := dedup fields }

/-- The query with a raw filter, in place of any on the same field. -/
def filter (query : Query) (field value : String) : Query :=
  { query with filters := query.filters.insert field value }

/-- The query with a criterion, in place of any on the same attribute. -/
def searching (query : Query) (name value : String) : Query :=
  { query with criteria := query.criteria.insert name value }

/-- The query with the given criteria in place of its own. -/
def withCriteria (query : Query) (criteria : Criteria) : Query := { query with criteria }

def withProxy (query : Query) (forceProxy : Bool) : Query := { query with forceProxy }

end Query
end GridClient
