import GridClient.Reference
import GridClient.Schema.Object
import GridClient.Text.Quoted

/-!
# `GridClient.Registry` — kinds of objects by type name

A registry keeps an entry under each name that was registered. The entries are in no order that
means anything, so the names are put in order when they are listed.

## Contents
- `Kind`: a type of objects as it is registered; `Schema.kind`: one of the grid.
- `RegistryEntry`: what is kept of a kind under a name; `Registry`: the entries.
- `Registry.registerAs`, `register`, `registerAll`: registrations.
- `Registry.get?`, `entryFor`: look-up by name and by reference; `objectTypes`: the names.
- `Registry.decode`: an object whose kind is known by name only.
- `Registry.standard`: every kind of the grid under every name that it goes by.
-/

namespace GridClient

open Text (Octets)

/-! ## Kinds -/

/-- A type of objects as it is registered: its own name, the fields that a read of it asks for
unless told otherwise, and how its objects are read. -/
structure Kind (α : Type) where
  objectType : String
  returnFields : List String
  read? : Octets → Option α

namespace Kind

variable {α β : Type}

/-- The object of a kind in a body; a failure names the kind by its own name. -/
def decode (k : Kind α) (body : Octets) : Checked α :=
  match k.read? body with
  | some a => .ok a
  | none => .error (.decode k.objectType)

/-- The kind with its objects taken for objects of another type. -/
def map (f : α → β) (k : Kind α) : Kind β where
  objectType := k.objectType
  returnFields := k.returnFields
  read? body := (k.read? body).map f

@[simp] theorem map_id (k : Kind α) : k.map id = k := by
  unfold map
  simp only [Option.map_id, id]

end Kind

/-- A kind of the grid. -/
def Schema.kind (s : Schema) : Kind Object where
  objectType := s.objectType
  returnFields := s.returnFields
  read? := Object.read? s

/-! ## Entries -/

/-- What is kept of a kind under a name. -/
structure RegistryEntry (α : Type) where
  /-- The name that the kind was registered under. -/
  objectType : String
  /-- The fields that a read by this name asks for. -/
  returnFields : List String
  /-- The object in a body. -/
  decode : Octets → Checked α

namespace RegistryEntry

variable {α : Type}

def describe (e : RegistryEntry α) : String :=
  Text.record "ObjectSchema"
    [("object_type", Text.quote e.objectType), ("return_fields", Text.quoteList e.returnFields)]

/-- What a read by this name presents to the server. -/
def snapshot (e : RegistryEntry α) : Snapshot :=
  { objectType := e.objectType, returnFields := e.returnFields }

end RegistryEntry

/-- The entry for a kind that is registered under a name. -/
def Kind.entry {α : Type} (k : Kind α) (name : String) : RegistryEntry α where
  objectType := name
  returnFields := k.returnFields
  decode := k.decode

theorem Schema.decode_entry (s : Schema) (name : String) (body : Octets) :
    (s.kind.entry name).decode body = Object.decode s s.objectType body := by
  have hread : s.kind.read? body = Object.read? s body := rfl
  show s.kind.decode body = _
  unfold Kind.decode Object.decode
  rw [hread]
  cases Object.read? s body <;> rfl

/-! ## Registries -/

/-- The entries under the names that were registered. -/
structure Registry (α : Type) where
  entries : List (String × RegistryEntry α)

namespace Registry

variable {α : Type}

instance : EmptyCollection (Registry α) := ⟨⟨[]⟩⟩

/-- The registry with an entry under a name, in place of any that was there. -/
def insert (r : Registry α) (name : String) (e : RegistryEntry α) : Registry α where
  entries := (name, e) :: r.entries.filter (·.1 != name)

/-- The registry with a kind under a name. -/
def registerAs (r : Registry α) (k : Kind α) (name : String) : Registry α :=
  r.insert name (k.entry name)

/-- The registry with a kind under its own name. -/
def register (r : Registry α) (k : Kind α) : Registry α := r.registerAs k k.objectType

/-- The registry with a kind of the grid under every name that its objects' types have. -/
def registerEach (wrap : Object → α) (r : Registry α) (s : Schema) : Registry α :=
  s.objectTypes.foldl (fun r name => r.registerAs (s.kind.map wrap) name) r

/-- The registry with all kinds of the grid, their objects taken for objects of a wider type. -/
def registerAll (wrap : Object → α) (r : Registry α) : Registry α :=
  Schema.all.foldl (registerEach wrap) r

/-- Every kind of the grid under every name that its objects' types have. -/
def standard : Registry Object := registerAll id ∅

/-! ### Look-up -/

/-- The entry under a name. -/
def get? (r : Registry α) (name : String) : Option (RegistryEntry α) := r.entries.lookup name

/-- Whether a name is registered. -/
def contains (r : Registry α) (name : String) : Bool := (r.get? name).isSome

/-- The registered names as they come. -/
def names (r : Registry α) : List String := r.entries.map Prod.fst

/-- The registered names in increasing order. -/
def objectTypes (r : Registry α) : List String := r.names.mergeSort

/-- The entry under a name that has to be registered. -/
def entry (r : Registry α) (name : String) : Checked (RegistryEntry α) :=
  match r.get? name with
  | some e => .ok e
  | none => .error (.unknownObjectType name)

/-- The entry for the type that a reference begins with. -/
def entryFor (r : Registry α) (reference : String) : Checked (RegistryEntry α) :=
  match objectTypeOf? reference with
  | some name => r.entry name
  | none => .error (.invalidReference reference)

/-- The object in a body, by the name of its type. -/
def decode (r : Registry α) (name : String) (body : Octets) : Checked α := do
  (← r.entry name).decode body

@[simp] theorem get?_empty (name : String) : (∅ : Registry α).get? name = none := rfl

theorem get?_insert (r : Registry α) (name : String) (e : RegistryEntry α) (other : String) :
    (r.insert name e).get? other = if other = name then some e else r.get? other := by
  have hfilter : other ≠ name →
      (r.entries.filter (·.1 != name)).lookup other = r.entries.lookup other := by
    intro hne
    induction r.entries with
    | nil => rfl
    | cons entry entries ih =>
        obtain ⟨key, value⟩ := entry
        by_cases hkey : key = name
        · -- what is dropped stood under another name than the one that is looked for
          rw [List.filter_cons_of_neg (by simpa using hkey), ih, List.lookup_cons,
            beq_eq_false_iff_ne.mpr (hkey ▸ hne)]
        · rw [List.filter_cons_of_pos (by simpa using hkey), List.lookup_cons, List.lookup_cons, ih]
  show ((name, e) :: _).lookup other = _
  rw [List.lookup_cons]
  by_cases hname : other = name
  · rw [if_pos hname, beq_iff_eq.mpr hname]
  · rw [if_neg hname, beq_eq_false_iff_ne.mpr hname]
    exact hfilter hname

variable {r : Registry α} {name : String}

theorem mem_objectTypes_iff :
    name ∈ r.objectTypes ↔ (r.get? name).isSome = true := by
  unfold objectTypes names get?
  rw [List.mem_mergeSort, List.lookup_isSome_iff, List.mem_map]
  simp only [beq_iff_eq]
  exact exists_congr fun entry => and_congr_right fun _ => eq_comm

theorem entry_eq_ok_iff {e : RegistryEntry α} : r.entry name = .ok e ↔ r.get? name = some e := by
  unfold entry
  cases r.get? name <;> simp

/-- A name that has no entry is told in the failure, and there is no other. -/
theorem entry_eq_error_iff {e : Error} :
    r.entry name = .error e ↔ e = .unknownObjectType name ∧ name ∉ r.objectTypes := by
  rw [mem_objectTypes_iff]
  unfold entry
  cases r.get? name <;> simp [eq_comm]

/-- A body is read by the entry of the name that it is said to be of. -/
theorem decode_eq_of_get? {e : RegistryEntry α} (h : r.get? name = some e) (body : Octets) :
    r.decode name body = e.decode body := by
  unfold decode
  rw [entry_eq_ok_iff.mpr h]
  rfl

theorem decode_of_get?_eq_none (h : r.get? name = none) (body : Octets) :
    r.decode name body = .error (.unknownObjectType name) := by
  unfold decode entry
  rw [h]
  rfl

end Registry
end GridClient
