/-!
# `GridClient.NameMap` — finite maps from names, in code-point order

A map is the list of its entries, strictly increasing by name, so that two maps with the same
look-ups are equal and the entries come out in the order in which they are written.

## Contents
- `NameMap`, `get?`, `contains`, `keys`, `size`.
- `insert`, `erase`, `without`, `union`, `mapValues`, `ofList`, each with its look-up law.
- `ext_get?`: look-ups determine the map.
-/

namespace GridClient

/-- A finite map from names: entries strictly increasing by name. -/
structure NameMap (α : Type) where
  entries : List (String × α)
  increasing : entries.Pairwise (fun a b => a.1 < b.1)

namespace NameMap

variable {α β : Type}

/-! ## Order of names -/

theorem lt_or_eq_or_gt (a b : String) : a < b ∨ a = b ∨ b < a := by
  by_cases h : a < b
  · exact .inl h
  · by_cases h' : b < a
    · exact .inr (.inr h')
    · exact .inr (.inl (String.le_antisymm (String.not_lt.1 h') (String.not_lt.1 h)))

theorem ne_of_lt {a b : String} (h : a < b) : a ≠ b := fun e => String.lt_irrefl b (e ▸ h)

/-! ## Look-up -/

@[ext] theorem ext {m n : NameMap α} (h : m.entries = n.entries) : m = n := by
  cases m; cases n; cases h; rfl

/-- The map without entries. -/
def empty : NameMap α := ⟨[], .nil⟩

instance : EmptyCollection (NameMap α) := ⟨empty⟩
instance : Inhabited (NameMap α) := ⟨empty⟩

instance [DecidableEq α] : DecidableEq (NameMap α) := fun m n =>
  decidable_of_iff (m.entries = n.entries) ⟨ext, fun h => h ▸ rfl⟩

/-- The value under a name in a list of entries. -/
def find (name : String) : List (String × α) → Option α
  | [] => none
  | (n, v) :: rest => if n = name then some v else find name rest

/-- The value under a name. -/
def get? (m : NameMap α) (name : String) : Option α := find name m.entries

/-- Whether a name has a value. -/
def contains (m : NameMap α) (name : String) : Bool := (m.get? name).isSome

/-- The names, in increasing order. -/
def keys (m : NameMap α) : List String := m.entries.map Prod.fst

def size (m : NameMap α) : Nat := m.entries.length

def isEmpty (m : NameMap α) : Bool := m.entries.isEmpty

theorem find_eq_none_of_lt {name : String} {es : List (String × α)}
    (h : ∀ e ∈ es, name < e.1) : find name es = none := by
  induction es with
  | nil => rfl
  | cons e es ih =>
    have hne : e.1 ≠ name := (ne_of_lt (h e (List.mem_cons_self ..))).symm
    simp only [find, hne, if_false]
    exact ih fun e he => h e (List.mem_cons_of_mem _ he)

theorem find_eq_some_iff {name : String} {v : α} {es : List (String × α)}
    (hs : es.Pairwise (fun a b => a.1 < b.1)) :
    find name es = some v ↔ (name, v) ∈ es := by
  induction es with
  | nil => simp [find]
  | cons e es ih =>
    obtain ⟨n, w⟩ := e
    rw [List.pairwise_cons] at hs
    by_cases h : n = name
    · subst h
      simp only [find, if_true, Option.some.injEq, List.mem_cons, Prod.mk.injEq, true_and]
      constructor
      · exact fun e => .inl e.symm
      · rintro (e | hm)
        · exact e.symm
        · exact absurd (hs.1 _ hm) (String.lt_irrefl _)
    · simp only [find, h, if_false, List.mem_cons, Prod.mk.injEq, Ne.symm h, false_and, false_or]
      exact ih hs.2

theorem get?_eq_some_iff {m : NameMap α} {name : String} {v : α} :
    m.get? name = some v ↔ (name, v) ∈ m.entries := find_eq_some_iff m.increasing

@[simp] theorem get?_empty (name : String) : (∅ : NameMap α).get? name = none := rfl

theorem mem_keys_iff {m : NameMap α} {name : String} :
    name ∈ m.keys ↔ m.contains name = true := by
  simp only [keys, contains, List.mem_map, Option.isSome_iff_exists, get?_eq_some_iff, Prod.exists]
  constructor
  · rintro ⟨n, v, h, rfl⟩
    exact ⟨v, h⟩
  · rintro ⟨v, h⟩
    exact ⟨name, v, h, rfl⟩

/-- The names are strictly increasing. -/
theorem keys_increasing (m : NameMap α) : m.keys.Pairwise (· < ·) := by
  simpa [keys, List.pairwise_map] using m.increasing

/-- Look-ups determine the entries. -/
theorem entries_eq_of_find_eq {es fs : List (String × α)}
    (hes : es.Pairwise (fun a b => a.1 < b.1)) (hfs : fs.Pairwise (fun a b => a.1 < b.1))
    (h : ∀ name, find name es = find name fs) : es = fs := by
  induction es generalizing fs with
  | nil =>
    cases fs with
    | nil => rfl
    | cons f fs => have := h f.1; simp [find] at this
  | cons e es ih =>
    cases fs with
    | nil => have := h e.1; simp [find] at this
    | cons f fs =>
      have he := List.pairwise_cons.1 hes
      have hf := List.pairwise_cons.1 hfs
      have hhead : e.1 = f.1 := by
        rcases lt_or_eq_or_gt e.1 f.1 with hlt | heq | hgt
        · have habsent : find e.1 (f :: fs) = none := find_eq_none_of_lt fun x hx => by
            rcases List.mem_cons.1 hx with rfl | hx
            · exact hlt
            · exact String.lt_trans hlt (hf.1 x hx)
          have := (h e.1).trans habsent
          simp [find] at this
        · exact heq
        · have habsent : find f.1 (e :: es) = none := find_eq_none_of_lt fun x hx => by
            rcases List.mem_cons.1 hx with rfl | hx
            · exact hgt
            · exact String.lt_trans hgt (he.1 x hx)
          have := habsent.symm.trans (h f.1)
          simp [find] at this
      have hval : e.2 = f.2 := by
        have := h e.1
        simpa [find, hhead] using this
      have htail : es = fs := by
        refine ih he.2 hf.2 fun name => ?_
        by_cases hn : e.1 = name
        · subst hn
          rw [find_eq_none_of_lt he.1, find_eq_none_of_lt (hhead ▸ hf.1)]
        · have := h name
          simpa [find, hn, hhead ▸ hn] using this
      rw [htail, Prod.ext hhead hval]

/-- Look-ups determine the map. -/
theorem ext_get? {m n : NameMap α} (h : ∀ name, m.get? name = n.get? name) : m = n :=
  ext (entries_eq_of_find_eq m.increasing n.increasing h)

/-! ## Insertion -/

/-- The entries with `name` bound to `v`. -/
def insertEntry (name : String) (v : α) : List (String × α) → List (String × α)
  | [] => [(name, v)]
  | (n, w) :: rest =>
    if name < n then (name, v) :: (n, w) :: rest
    else if n = name then (name, v) :: rest
    else (n, w) :: insertEntry name v rest

theorem mem_insertEntry {name : String} {v : α} {es : List (String × α)} {e : String × α}
    (h : e ∈ insertEntry name v es) : e = (name, v) ∨ e ∈ es := by
  induction es with
  | nil => simpa [insertEntry] using h
  | cons f es ih =>
    obtain ⟨n, w⟩ := f
    unfold insertEntry at h
    split at h
    · simpa using h
    · split at h
      · rcases List.mem_cons.1 h with h | h
        · exact .inl h
        · exact .inr (List.mem_cons_of_mem _ h)
      · rcases List.mem_cons.1 h with h | h
        · exact .inr (h ▸ List.mem_cons_self ..)
        · exact (ih h).imp id (List.mem_cons_of_mem _)

theorem insertEntry_increasing {name : String} {v : α} {es : List (String × α)}
    (hs : es.Pairwise (fun a b => a.1 < b.1)) :
    (insertEntry name v es).Pairwise (fun a b => a.1 < b.1) := by
  induction es with
  | nil => simp [insertEntry]
  | cons f es ih =>
    obtain ⟨n, w⟩ := f
    have hf := List.pairwise_cons.1 hs
    unfold insertEntry
    split
    · rename_i hlt
      refine List.pairwise_cons.2 ⟨fun e he => ?_, hs⟩
      rcases List.mem_cons.1 he with rfl | he
      · exact hlt
      · exact String.lt_trans hlt (hf.1 e he)
    · split
      · rename_i heq
        exact List.pairwise_cons.2 ⟨fun e he => heq ▸ hf.1 e he, hf.2⟩
      · rename_i hnlt hne
        refine List.pairwise_cons.2 ⟨fun e he => ?_, ih hf.2⟩
        rcases mem_insertEntry he with rfl | he
        · rcases lt_or_eq_or_gt name n with h | h | h
          · exact absurd h hnlt
          · exact absurd h.symm hne
          · exact h
        · exact hf.1 e he

/-- The map with `name` bound to `v`, in place of any value it had. -/
def insert (m : NameMap α) (name : String) (v : α) : NameMap α :=
  ⟨insertEntry name v m.entries, insertEntry_increasing m.increasing⟩

theorem find_insertEntry (name : String) (v : α) (es : List (String × α)) (n : String) :
    find n (insertEntry name v es) = if name = n then some v else find n es := by
  induction es with
  | nil => simp [insertEntry, find]
  | cons f es ih =>
    obtain ⟨k, w⟩ := f
    unfold insertEntry
    split
    · simp [find]
    · split
      · rename_i hk
        subst hk
        by_cases h : k = n <;> simp [find, h]
      · rename_i hk
        by_cases h : k = n
        · subst h
          simp [find, Ne.symm hk]
        · simp [find, h, ih]

@[simp] theorem get?_insert (m : NameMap α) (name : String) (v : α) (n : String) :
    (m.insert name v).get? n = if name = n then some v else m.get? n :=
  find_insertEntry name v m.entries n

/-! ## Restriction -/

/-- The map restricted to the names that satisfy `p`. -/
def filterKeys (m : NameMap α) (p : String → Bool) : NameMap α :=
  ⟨m.entries.filter fun e => p e.1, m.increasing.filter _⟩

theorem find_filter (p : String → Bool) (es : List (String × α)) (n : String) :
    find n (es.filter fun e => p e.1) = if p n then find n es else none := by
  induction es with
  | nil => simp [find]
  | cons e es ih =>
    obtain ⟨k, w⟩ := e
    by_cases hk : k = n
    · subst hk
      cases hp : p k <;> simp [hp, find, ih]
    · cases hp : p k <;> simp [hp, find, hk, ih]

@[simp] theorem get?_filterKeys (m : NameMap α) (p : String → Bool) (n : String) :
    (m.filterKeys p).get? n = if p n then m.get? n else none := find_filter p m.entries n

/-- The map without a name. -/
def erase (m : NameMap α) (name : String) : NameMap α := m.filterKeys (· != name)

theorem get?_erase (m : NameMap α) (name n : String) :
    (m.erase name).get? n = if name = n then none else m.get? n := by
  by_cases h : name = n
  · simp [erase, h]
  · simp [erase, h, Ne.symm h]

/-- The map without any of the given names. -/
def without (m : NameMap α) (names : List String) : NameMap α :=
  m.filterKeys fun n => !names.contains n

theorem get?_without (m : NameMap α) (names : List String) (n : String) :
    (m.without names).get? n = if n ∈ names then none else m.get? n := by
  by_cases h : n ∈ names <;> simp [without, h]

/-! ## Union -/

/-- The map with the given bindings made one after the other, so that later ones win. -/
def insertAll (m : NameMap α) (bindings : List (String × α)) : NameMap α :=
  bindings.foldl (fun m b => m.insert b.1 b.2) m

/-- The map with the given bindings, later ones in place of earlier ones. -/
def ofList (bindings : List (String × α)) : NameMap α := (∅ : NameMap α).insertAll bindings

/-- Both maps together; where both have a name, `other` wins. -/
def union (m other : NameMap α) : NameMap α := m.insertAll other.entries

theorem get?_insertAll (m : NameMap α) {es : List (String × α)}
    (hs : es.Pairwise (fun a b => a.1 < b.1)) (n : String) :
    (m.insertAll es).get? n = (find n es).or (m.get? n) := by
  induction es generalizing m with
  | nil => simp [insertAll, find]
  | cons e es ih =>
    obtain ⟨k, w⟩ := e
    have he := List.pairwise_cons.1 hs
    have := ih (m.insert k w) he.2
    simp only [insertAll, List.foldl_cons] at this ⊢
    rw [this, get?_insert]
    by_cases h : k = n
    · subst h
      simp [find, find_eq_none_of_lt he.1]
    · simp [find, h]

@[simp] theorem get?_union (m other : NameMap α) (n : String) :
    (m.union other).get? n = (other.get? n).or (m.get? n) :=
  get?_insertAll m other.increasing n

/-! ## Values -/

/-- The map with `f` applied to every value. -/
def mapValues (f : α → β) (m : NameMap α) : NameMap β :=
  ⟨m.entries.map fun e => (e.1, f e.2), by simpa [List.pairwise_map] using m.increasing⟩

theorem find_map (f : α → β) (es : List (String × α)) (n : String) :
    find n (es.map fun e => (e.1, f e.2)) = (find n es).map f := by
  induction es with
  | nil => rfl
  | cons e es ih => by_cases h : e.1 = n <;> simp [find, h, ih]

@[simp] theorem get?_mapValues (f : α → β) (m : NameMap α) (n : String) :
    (m.mapValues f).get? n = (m.get? n).map f := find_map f m.entries n

end NameMap
end GridClient
