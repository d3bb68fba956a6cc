import GridClient.Json.Record
import Mathlib.Data.List.Forall2

/-!
# `GridClient.Proofs.Json.Record` — what a document gives for a record

A record may be written as an object or as an array. Either way a document of the right outer form
gives at most one document for each declared name, by its key or by its place, and that is what the
reader looks up. What a document gives is stated here without reference to the look-up.

## Contents
- `Document.Gives`: a document gives another one under a declared name; `TellsText`: a text that
  may be missing.
- `Layout.Accepts`: a document has the outer form of a record.
- `exists_members?_iff`, `members_eq_some_iff`: the look-up finds just what is given.
- `Members.orElse?_eq_some_iff`, `optional?_eq_some_iff`: members that may be missing.
- `Document.listOf?_eq_some_iff`: a list, read item by item.
-/

namespace GridClient

/-! ## What a document gives -/

/-- A document gives another one under a declared name: an object does under the key of that name,
an array at its place. -/
inductive Document.Gives (names : List String) : Document → String → Document → Prop
  | object {members : List (Option String × Document)} {name : String} {d : Document}
    (h : (some name, d) ∈ members) : Gives names (.object members) name d
  | array {items : List Document} {i : Nat} {name : String} {d : Document}
    (hname : names[i]? = some name) (hitem : items[i]? = some d) :
    Gives names (.array items) name d

/-- The text that a document tells under a declared name: the empty one when it gives nothing. -/
def Document.TellsText (names : List String) (d : Document) (name text : String) : Prop :=
  d.Gives names name (.string (some text)) ∨ ((∀ m, ¬ d.Gives names name m) ∧ text = "")

/-- A document has the outer form of a record: an object with keys that are texts, none of the
declared ones twice, or an array of as many items as there may be members. -/
inductive Layout.Accepts (layout : Layout) : Document → Prop
  | object {members : List (Option String × Document)} (keys : ∀ m ∈ members, m.1 ≠ none)
    (once : ∀ name ∈ layout.names, (members.map Prod.fst).count (some name) ≤ 1) :
    Accepts layout (.object members)
  | array {items : List Document} (enough : layout.required ≤ items.length)
    (few : items.length ≤ layout.names.length) : Accepts layout (.array items)

/-! ## Objects -/

namespace Layout

theorem wellFormed_iff {layout : Layout} {members : List (Option String × Document)} :
    layout.wellFormed members = true ↔ (∀ m ∈ members, m.1 ≠ none)
      ∧ ∀ name ∈ layout.names, (members.map Prod.fst).count (some name) ≤ 1 := by
  have hcount : ∀ name : String, (members.map Prod.fst).count (some name)
      = (members.filter (·.1 == some name)).length := by
    intro name
    rw [List.count, List.countP_map, List.countP_eq_length_filter]
    rfl
  simp only [wellFormed, Bool.and_eq_true, List.all_eq_true, Option.isSome_iff_ne_none,
    decide_eq_true_eq, hcount]

/-- A key that occurs once at most is found where it occurs. -/
theorem lookup_eq_some_iff {members : List (Option String × Document)} {name : String}
    (honce : (members.map Prod.fst).count (some name) ≤ 1) {d : Document} :
    lookup members name = some d ↔ (some name, d) ∈ members := by
  unfold lookup
  rw [Option.map_eq_some_iff]
  constructor
  · rintro ⟨⟨key, d'⟩, hfound, rfl⟩
    have hkey : key = some name := by simpa using List.find?_some hfound
    have hmem := List.mem_of_find?_eq_some hfound
    rw [hkey] at hmem
    exact List.mem_reverse.mp hmem
  · intro hmem
    -- the search ends at some member of that key, and there is no other
    have hsome : (members.reverse.find? (·.1 == some name)).isSome = true :=
      List.find?_isSome.mpr ⟨_, List.mem_reverse.mpr hmem, by simp⟩
    obtain ⟨m, hm⟩ := Option.isSome_iff_exists.mp hsome
    have hmem' : m ∈ members := List.mem_reverse.mp (List.mem_of_find?_eq_some hm)
    have hkey : m.1 = some name := by simpa using List.find?_some hm
    have hfew : (members.filter (·.1 == some name)).length ≤ 1 := by
      rw [← List.countP_eq_length_filter]
      rwa [List.count, List.countP_map] at honce
    have hall : ∀ m ∈ members, m.1 = some name → m ∈ members.filter (·.1 == some name) :=
      fun m hm hkey => List.mem_filter.mpr ⟨hm, by simp [hkey]⟩
    obtain ⟨x, hx⟩ := List.length_eq_one_iff.mp
      (Nat.le_antisymm hfew (List.length_pos_of_mem (hall m hmem' hkey)))
    have hm_eq : m = x := by simpa [hx] using hall m hmem' hkey
    have hd_eq : (some name, d) = x := by simpa [hx] using hall _ hmem rfl
    exact ⟨m, hm, by rw [hm_eq, ← hd_eq]⟩

/-! ## Arrays -/

/-- Among names that differ, the items stand at the places of theirs. -/
theorem lookup_zip_eq_some_iff {names : List String} (hnames : names.Nodup)
    {items : List Document} {name : String} {d : Document} :
    (names.zip items).lookup name = some d
      ↔ ∃ i : Nat, names[i]? = some name ∧ items[i]? = some d := by
  induction names generalizing items with
  | nil => simp
  | cons n names ih =>
      obtain ⟨hnotMem, hrest⟩ := List.nodup_cons.mp hnames
      cases items with
      | nil => simp
      | cons item items =>
          rw [List.zip_cons_cons, List.lookup_cons]
          by_cases hn : name = n
          · -- the first place is the one, for the name stands at no other
            subst hn
            rw [BEq.rfl]
            constructor
            · intro h
              exact ⟨0, rfl, h⟩
            · rintro ⟨i, hi, hd⟩
              cases i with
              | zero => exact hd
              | succ i => exact absurd (List.mem_of_getElem? (l := names) hi) hnotMem
          · rw [beq_eq_false_iff_ne.mpr hn]
            refine (ih hrest).trans ⟨fun ⟨i, hi, hd⟩ => ⟨i + 1, hi, hd⟩, ?_⟩
            rintro ⟨i, hi, hd⟩
            cases i with
            | zero => exact absurd (Option.some.inj hi).symm hn
            | succ i => exact ⟨i, hi, hd⟩

/-! ## The look-up -/

variable {layout : Layout} {members : Members}

theorem members?_object {entries : List (Option String × Document)} :
    layout.members? (.object entries) = some members
      ↔ layout.wellFormed entries = true ∧ lookup entries = members := by
  show (if layout.wellFormed entries = true then some (lookup entries) else none) = _ ↔ _
  split
  · rename_i hwell
    simp [hwell]
  · rename_i hnot
    simp [hnot]

theorem members?_array {items : List Document} :
    layout.members? (.array items) = some members
      ↔ (layout.required ≤ items.length ∧ items.length ≤ layout.names.length)
        ∧ (fun name => (layout.names.zip items).lookup name) = members := by
  show (if layout.required ≤ items.length ∧ items.length ≤ layout.names.length
    then some (fun name => (layout.names.zip items).lookup name) else none) = _ ↔ _
  split
  · rename_i hcount
    simp [hcount]
  · rename_i hnot
    simp only [hnot, false_and, iff_false]
    exact nofun

variable {d : Document}

/-- A record is read from the documents of its outer form. -/
theorem exists_members?_iff : (∃ members, layout.members? d = some members) ↔ layout.Accepts d := by
  constructor
  · rintro ⟨members, h⟩
    cases d with
    | object entries =>
        obtain ⟨keys, once⟩ := wellFormed_iff.mp (members?_object.mp h).1
        exact .object keys once
    | array items =>
        obtain ⟨enough, few⟩ := (members?_array.mp h).1
        exact .array enough few
    | null | bool | number | string => cases h
  · rintro (⟨keys, once⟩ | ⟨enough, few⟩)
    · exact ⟨_, members?_object.mpr ⟨wellFormed_iff.mpr ⟨keys, once⟩, rfl⟩⟩
    · exact ⟨_, members?_array.mpr ⟨⟨enough, few⟩, rfl⟩⟩

/-- **The look-up finds what the document gives.** -/
theorem members_eq_some_iff (hnames : layout.names.Nodup) (h : layout.members? d = some members)
    {name : String} (hname : name ∈ layout.names) {m : Document} :
    members name = some m ↔ d.Gives layout.names name m := by
  cases d with
  | object entries =>
      obtain ⟨hwell, rfl⟩ := members?_object.mp h
      rw [lookup_eq_some_iff ((wellFormed_iff.mp hwell).2 name hname)]
      exact ⟨.object, fun | .object hmem => hmem⟩
  | array items =>
      obtain ⟨-, rfl⟩ := members?_array.mp h
      rw [lookup_zip_eq_some_iff hnames]
      exact ⟨fun ⟨i, hi, hm⟩ => .array hi hm, fun | .array hi hm => ⟨_, hi, hm⟩⟩
  | null | bool | number | string => cases h

theorem members_eq_none_iff (hnames : layout.names.Nodup) (h : layout.members? d = some members)
    {name : String} (hname : name ∈ layout.names) :
    members name = none ↔ ∀ m, ¬ d.Gives layout.names name m := by
  rw [Option.eq_none_iff_forall_ne_some]
  exact forall_congr' fun m => not_congr (members_eq_some_iff hnames h hname)

end Layout

/-! ## Members that may be missing -/

namespace Members

variable {α : Type} {members : Members} {name : String} {read : Document → Option α}

theorem orElse?_eq_some_iff {otherwise a : α} :
    members.orElse? name read otherwise = some a
      ↔ (members name = none ∧ a = otherwise) ∨ ∃ m, members name = some m ∧ read m = some a := by
  unfold orElse?
  cases members name with
  | none => simp [eq_comm]
  | some m => simp

/-- `null` stands for no value, and anything else has to be readable. -/
theorem orNull?_eq_some_iff {m : Document} {value : Option α} :
    Document.orNull? read m = some value
      ↔ (m = .null ∧ value = none) ∨ m ≠ .null ∧ ∃ a, read m = some a ∧ value = some a := by
  have hread : ∀ m, (read m).map some = some value ↔ ∃ a, read m = some a ∧ value = some a :=
    fun m => by simp [Option.map_eq_some_iff, eq_comm]
  cases m with
  | null => simp [Document.orNull?, eq_comm]
  | _ => simp [Document.orNull?, hread]

/-- A member that is missing or `null` counts as none. -/
theorem optional?_eq_some_iff {value : Option α} :
    members.optional? name read = some value
      ↔ (value = none ∧ ∀ m, members name = some m → m = .null)
        ∨ ∃ m, members name = some m ∧ m ≠ .null ∧ ∃ a, read m = some a ∧ value = some a := by
  unfold optional?
  rw [orElse?_eq_some_iff]
  cases members name with
  | none => simp
  | some m => simp [orNull?_eq_some_iff, and_comm]

end Members

theorem Document.toText?_eq_some_iff {d : Document} {text : String} :
    d.toText? = some text ↔ d = .string (some text) := by
  cases d <;> simp [toText?]

/-- A text that may be missing is read as the document tells it. -/
theorem Layout.text_eq_some_iff {layout : Layout} {members : Members} {d : Document}
    (hnames : layout.names.Nodup) (h : layout.members? d = some members) {name : String}
    (hname : name ∈ layout.names) {text : String} :
    members.orElse? name Document.toText? "" = some text
      ↔ d.TellsText layout.names name text := by
  rw [Members.orElse?_eq_some_iff, members_eq_none_iff hnames h hname]
  simp only [Document.toText?_eq_some_iff, members_eq_some_iff hnames h hname]
  constructor
  · rintro (hnone | ⟨m, hgiven, rfl⟩)
    · exact .inr hnone
    · exact .inl hgiven
  · rintro (hgiven | hnone)
    · exact .inr ⟨_, hgiven, rfl⟩
    · exact .inl hnone

/-! ## Lists -/

section Lists

variable {α : Type} {read : Document → Option α}

/-- A list is read item by item. -/
theorem mapM_eq_some_iff {items : List Document} {values : List α} :
    items.mapM read = some values
      ↔ List.Forall₂ (fun item value => read item = some value) items values := by
  induction items generalizing values with
  | nil => simp [eq_comm]
  | cons item items ih =>
      simp only [List.mapM_cons, Option.bind_eq_bind, Option.bind_eq_some_iff, Option.pure_def,
        Option.some.injEq, List.forall₂_cons_left_iff, ih]
      exact ⟨fun ⟨value, hvalue, rest, hrest, heq⟩ => ⟨value, rest, hvalue, hrest, heq.symm⟩,
        fun ⟨value, rest, hvalue, hrest, heq⟩ => ⟨value, hvalue, rest, hrest, heq.symm⟩⟩

/-- A list is read from an array, and from nothing else. -/
theorem Document.listOf?_eq_some_iff {d : Document} {values : List α} :
    d.listOf? read = some values ↔ ∃ items, d = .array items
      ∧ List.Forall₂ (fun item value => read item = some value) items values := by
  cases d with
  | array items =>
      rw [listOf?, mapM_eq_some_iff]
      exact ⟨fun h => ⟨items, rfl, h⟩, fun | ⟨_, rfl, h⟩ => h⟩
  | null | bool | number | string | object =>
      exact ⟨nofun, nofun⟩

end Lists
end GridClient
