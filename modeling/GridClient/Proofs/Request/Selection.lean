import GridClient.Query

/-!
# `GridClient.Proofs.Request.Selection` — the fields that a query selects

A list of fields may mention a field more than once. A query goes through the list and keeps what it
has not kept yet, in place of whatever it selected before. What it ends up with can be told from the
list without going through it: the same members, ordered by the places at which the list first
mentions them. There is one such list only, and it is the one that it selects itself.

## Contents
- `Selects`: the members of a list in the order of their first places.
- `Selects.nodup`, `Selects.unique`, `Selects.self`: each once, in no other order, to be kept as is.
- `Selects.snoc`, `Selects.foldl_see`: one more name, and a whole list of them.
- `dedup_eq_iff`: `dedup` finds that list.
- `Query.selecting_orders_fields`: what a selection makes of a query.
-/

namespace GridClient

/-- A list has the members of another, ordered by the places at which that one first mentions
them. -/
structure Selects (names chosen : List String) : Prop where
  mem_iff : ∀ x, x ∈ chosen ↔ x ∈ names
  ordered : chosen.Pairwise fun x y => names.idxOf x < names.idxOf y

namespace Selects

variable {names seen chosen other : List String}

/-! ## The order fixes the list -/

/-- No member comes before itself, so each is there once. -/
theorem nodup (h : Selects names chosen) : chosen.Nodup := by
  apply h.ordered.imp
  rintro x y hlt rfl
  exact Nat.lt_irrefl _ hlt

theorem unique (h : Selects names chosen) (h' : Selects names other) : chosen = other := by
  have hperm : chosen.Perm other := by
    rw [List.perm_ext_iff_of_nodup h.nodup h'.nodup]
    intro x
    rw [h.mem_iff, h'.mem_iff]
  apply List.Perm.eq_of_pairwise _ h.ordered h'.ordered hperm
  intro x y _ _ hxy hyx
  exact absurd hyx (Nat.lt_asymm hxy)

/-- A selection is the one that is made from itself. -/
theorem self (h : Selects names chosen) : Selects chosen chosen where
  mem_iff _ := Iff.rfl
  ordered := by
    rw [List.pairwise_iff_getElem]
    intro i j hi hj hij
    rw [h.nodup.idxOf_getElem i hi, h.nodup.idxOf_getElem j hj]
    exact hij

/-! ## Going through the list -/

/-- **One more name.** It comes last where it is new, and otherwise changes nothing. -/
theorem snoc (h : Selects names seen) (name : String) :
    Selects (names ++ [name]) (see seen name) where
  mem_iff x := by
    rw [mem_see, h.mem_iff, List.mem_append, List.mem_singleton]
  ordered := by
    -- what has been seen keeps its first place
    have hplace : ∀ x ∈ seen, (names ++ [name]).idxOf x = names.idxOf x := by
      intro x hx
      rw [List.idxOf_append, if_pos ((h.mem_iff x).mp hx)]
    have hseen : seen.Pairwise
        fun x y => (names ++ [name]).idxOf x < (names ++ [name]).idxOf y := by
      apply h.ordered.imp_of_mem
      intro x y hx hy hlt
      rw [hplace x hx, hplace y hy]
      exact hlt
    unfold see
    by_cases hmem : seen.contains name = true
    · rw [if_pos hmem]
      exact hseen
    · rw [if_neg hmem, List.pairwise_append]
      refine ⟨hseen, List.pairwise_singleton _ _, ?_⟩
      intro x hx y hy
      obtain rfl := List.mem_singleton.mp hy
      have hnew : y ∉ names := by
        intro hy
        exact hmem (List.contains_iff_mem.mpr ((h.mem_iff y).mpr hy))
      have hlt : names.idxOf x < names.length :=
        List.idxOf_lt_length_of_mem ((h.mem_iff x).mp hx)
      rw [hplace x hx, List.idxOf_append, if_neg hnew]
      omega

/-- **A list of names**, on top of what has been seen of an earlier one. -/
theorem foldl_see (h : Selects names seen) (more : List String) :
    Selects (names ++ more) (more.foldl see seen) := by
  induction more generalizing names seen with
  | nil => simpa using h
  | cons name more ih => simpa using ih (h.snoc name)

end Selects

theorem selects_dedup (names : List String) : Selects names (dedup names) := by
  have hnone : Selects [] [] := ⟨fun _ => Iff.rfl, .nil⟩
  simpa [dedup] using hnone.foldl_see names

/-- **`dedup` finds the selection**, the only one there is. -/
theorem dedup_eq_iff {names chosen : List String} :
    dedup names = chosen ↔ Selects names chosen := by
  constructor
  · rintro rfl
    exact selects_dedup names
  · exact (selects_dedup names).unique

theorem dedup_dedup (names : List String) : dedup (dedup names) = dedup names :=
  dedup_eq_iff.mpr (selects_dedup names).self

/-! ## The theorem -/

/-- **The fields that a query selects are an ordered set.** They are the members of the given list,
ordered by where it first mentions them, each once. To select them again changes nothing. The other
parameters of the query stay as they are, and the fields that it selected before leave no trace: the
same list selects the same fields in every query. -/
theorem Query.selecting_orders_fields (query : Query) (fields : List String) :
    let selected := query.selecting fields
    (∀ chosen, selected.returnFields = chosen ↔ Selects fields chosen)
      ∧ selected.returnFields.Nodup
      ∧ selected.selecting selected.returnFields = selected
      ∧ (selected.filters = query.filters ∧ selected.criteria = query.criteria
        ∧ selected.forceProxy = query.forceProxy)
      ∧ (∀ earlier, { query with returnFields := earlier }.selecting fields = selected)
      ∧ ∀ other : Query, (other.selecting fields).returnFields = selected.returnFields := by
  intro selected
  refine ⟨fun chosen => dedup_eq_iff, (selects_dedup fields).nodup, ?_, ⟨rfl, rfl, rfl⟩,
    fun earlier => rfl, fun other => rfl⟩
  show { selected with returnFields := dedup (dedup fields) } = selected
  rw [dedup_dedup]
  rfl

example :
    dedup ["name", "comment", "name", "extattrs", "comment"] = ["name", "comment", "extattrs"] := by
  decide

end GridClient
