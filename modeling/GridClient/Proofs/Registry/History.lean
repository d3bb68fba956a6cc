import GridClient.Registry

/-!
# `GridClient.Proofs.Registry.History` — what a registry knows after any registrations

A registry is made by registrations: of a kind under its own name, of a kind under another name, or
of all kinds of the grid. Each binds names to kinds, in place of what they were bound to before. So
whatever the registrations were, every look-up tells the same: the names that were ever bound, and
for each of them the kind that it was bound to last.

## Contents
- `lastBound?`: what a name is bound to by bindings that may repeat it.
- `Registration`: registrations as data; `bindings` and `perform`, what they bind and what they do.
- `Registry.Coherent`: no name stands twice, and each entry bears the name that it stands under;
  `Coherent.registerAs`: a registration keeps that.
- `Registry.get?_registerBindings`: the entry after bindings in order.
- `Registry.Follows`: the look-ups tell what was bound last; `Registry.follows_history`.
-/

namespace GridClient

open Text (Octets)

/-! ## Bindings made one after the other -/

section Bindings

variable {α β : Type}

/-- What a name is bound to last. -/
def lastBound? (bindings : List (String × α)) (name : String) : Option α :=
  (bindings.filter (·.1 == name)).getLast?.map Prod.snd

theorem lastBound?_cons (b : String × α) (bindings : List (String × α)) (name : String) :
    lastBound? (b :: bindings) name
      = (lastBound? bindings name).or (if b.1 = name then some b.2 else none) := by
  unfold lastBound?
  rw [List.filter_cons]
  by_cases hname : b.1 = name
  · rw [if_pos hname, if_pos (beq_iff_eq.mpr hname), List.getLast?_cons]
    cases (bindings.filter (·.1 == name)).getLast? <;> rfl
  · rw [if_neg hname, if_neg (mt beq_iff_eq.mp hname), Option.or_none]

theorem isSome_lastBound?_iff {bindings : List (String × α)} {name : String} :
    (lastBound? bindings name).isSome = true ↔ ∃ a, (name, a) ∈ bindings := by
  have hmem : (lastBound? bindings name).isSome = true ↔ name ∈ bindings.map Prod.fst := by
    induction bindings with
    | nil => simp [lastBound?]
    | cons b bindings ih =>
        rw [lastBound?_cons, Option.isSome_or, Bool.or_eq_true, ih, List.map_cons, List.mem_cons]
        by_cases hname : b.1 = name
        · simp [hname]
        · simp [hname, Ne.symm hname]
  rw [hmem]
  simp

theorem lastBound?_map (f : α → β) (bindings : List (String × α)) (name : String) :
    lastBound? (bindings.map fun b => (b.1, f b.2)) name = (lastBound? bindings name).map f := by
  induction bindings with
  | nil => rfl
  | cons b bindings ih =>
      rw [List.map_cons, lastBound?_cons, lastBound?_cons, ih]
      cases lastBound? bindings name
      · by_cases hname : b.1 = name <;> simp [hname]
      · rfl

end Bindings

/-! ## Registrations -/

/-- Every kind of the grid under every name that its objects' types have. -/
def Schema.namings : List (String × Schema) :=
  all.flatMap fun s => s.objectTypes.map fun name => (name, s)

/-- A registration: of a kind under its own name, of a kind under a given name, or of all kinds of
the grid. -/
inductive Registration (α : Type)
  | own (kind : Kind α)
  | named (kind : Kind α) (name : String)
  | grid

variable {α : Type}

/-- The registry with kinds under names, one after the other. -/
def Registry.registerBindings (r : Registry α) (bindings : List (String × Kind α)) : Registry α :=
  bindings.foldl (fun r b => r.registerAs b.2 b.1) r

namespace Registration

variable (wrap : Object → α)

/-- The names that a registration binds, in order, and to which kinds. -/
def bindings : Registration α → List (String × Kind α)
  | own kind => [(kind.objectType, kind)]
  | named kind name => [(name, kind)]
  | grid => Schema.namings.map fun b => (b.1, b.2.kind.map wrap)

/-- What a registration makes of a registry. -/
def perform (r : Registry α) : Registration α → Registry α
  | own kind => r.register kind
  | named kind name => r.registerAs kind name
  | grid => r.registerAll wrap

/-- A registration makes its bindings. -/
theorem perform_eq (r : Registry α) (step : Registration α) :
    perform wrap r step = r.registerBindings (step.bindings wrap) := by
  cases step with
  | own kind => rfl
  | named kind name => rfl
  | grid =>
      rw [bindings, perform, Registry.registerBindings, List.foldl_map, Schema.namings,
        List.foldl_flatMap]
      simp only [List.foldl_map]
      rfl

/-- **Registrations make all their bindings**, in order. -/
theorem foldl_perform (history : List (Registration α)) (r : Registry α) :
    history.foldl (perform wrap) r = r.registerBindings (history.flatMap (bindings wrap)) := by
  induction history generalizing r with
  | nil => rfl
  | cons step history ih =>
      rw [List.foldl_cons, ih, perform_eq, List.flatMap_cons]
      exact List.foldl_append.symm

end Registration

/-! ## What every registration keeps -/

namespace Registry

/-- No name stands twice, and every entry bears the name that it stands under. -/
structure Coherent (r : Registry α) : Prop where
  nodup : r.names.Nodup
  objectType_eq : ∀ entry ∈ r.entries, entry.2.objectType = entry.1

theorem coherent_empty : (∅ : Registry α).Coherent where
  nodup := .nil
  objectType_eq := nofun

/-- **One registration keeps that**: the name is dropped before it is put in again, with an entry
that bears it. -/
theorem Coherent.registerAs {r : Registry α} (h : r.Coherent) (k : Kind α) (name : String) :
    (r.registerAs k name).Coherent where
  nodup := by
    show (name :: (r.entries.filter (·.1 != name)).map Prod.fst).Nodup
    rw [List.nodup_cons]
    constructor
    · intro hmem
      obtain ⟨entry, hentry, rfl⟩ := List.mem_map.mp hmem
      simpa using (List.mem_filter.mp hentry).2
    · exact h.nodup.sublist (List.filter_sublist.map Prod.fst)
  objectType_eq := by
    intro entry hentry
    rcases List.mem_cons.mp hentry with rfl | hentry
    · rfl
    · exact h.objectType_eq entry (List.mem_filter.mp hentry).1

/-- **So do any number of them.** -/
theorem Coherent.registerBindings {r : Registry α} (h : r.Coherent)
    (bindings : List (String × Kind α)) : (r.registerBindings bindings).Coherent := by
  induction bindings generalizing r with
  | nil => exact h
  | cons b bindings ih => exact ih (h.registerAs b.2 b.1)

/-- Distinct names increase strictly when they are put in order. -/
theorem Coherent.pairwise_objectTypes {r : Registry α} (h : r.Coherent) :
    r.objectTypes.Pairwise (· < ·) := by
  have hsorted : r.objectTypes.Pairwise fun a b => decide (a ≤ b) = true := by
    apply List.pairwise_mergeSort
    · intro a b c hab hbc
      rw [decide_eq_true_eq] at hab hbc ⊢
      exact String.le_trans hab hbc
    · intro a b
      rw [Bool.or_eq_true, decide_eq_true_eq, decide_eq_true_eq]
      exact String.le_total a b
  have hne : r.objectTypes.Nodup := (List.mergeSort_perm r.names _).nodup_iff.mpr h.nodup
  refine (hsorted.and hne).imp fun {a b} hab => ?_
  rcases NameMap.lt_or_eq_or_gt a b with hlt | heq | hgt
  · exact hlt
  · exact absurd heq hab.2
  · exact absurd hgt (String.not_lt.mpr (of_decide_eq_true hab.1))

/-! ## Entries after bindings -/

/-- **After bindings in order** a name has an entry for the kind that it was bound to last, or else
the entry that it had. -/
theorem get?_registerBindings (r : Registry α) (bindings : List (String × Kind α))
    (name : String) :
    (r.registerBindings bindings).get? name
      = ((lastBound? bindings name).map (·.entry name)).or (r.get? name) := by
  induction bindings generalizing r with
  | nil => rfl
  | cons b bindings ih =>
      have hstep : r.registerBindings (b :: bindings)
          = (r.registerAs b.2 b.1).registerBindings bindings := rfl
      -- later bindings decide first, then this one, then the registry
      rw [hstep, ih, registerAs, get?_insert, lastBound?_cons]
      by_cases hname : b.1 = name
      · subst hname
        cases lastBound? bindings b.1 <;> simp
      · cases lastBound? bindings name <;> simp [hname, Ne.symm hname]

/-- The standard registry has an entry for each naming of a kind of the grid. -/
theorem standard_get?_eq (name : String) :
    standard.get? name = (lastBound? Schema.namings name).map fun s => s.kind.entry name := by
  have hstandard : standard = Registration.perform id ∅ .grid := rfl
  rw [hstandard, Registration.perform_eq, get?_registerBindings, get?_empty, Option.or_none,
    Registration.bindings, lastBound?_map (fun s : Schema => s.kind.map id), Option.map_map]
  simp only [Function.comp_def, Kind.map_id]

end Registry

/-! ## What was bound last -/

/-- A reference begins with a type: a text without a `/`, and not empty, before its first `/`. -/
def LeadingType (reference name : String) : Prop :=
  name ≠ "" ∧ '/' ∉ name.toList ∧ ∃ rest, reference = name ++ "/" ++ rest

theorem leadingType_iff {reference name : String} :
    LeadingType reference name ↔ objectTypeOf? reference = some name :=
  objectTypeOf?_eq_some_iff.symm

namespace Registry

/-- Look-ups tell what was bound last. The names are listed in strictly increasing order and are
those that were bound. What is kept under a name bears that name, with the fields and the decoder
of the kind that it was bound to last, and that kind reads its bodies; a body of another name is
refused in that name. For a reference stands what is kept under the type that it begins with. It is
refused as no reference exactly if it begins with none, and as of an unknown type exactly if it
begins with one that is not listed. -/
structure Follows (r : Registry α) (bindings : List (String × Kind α)) : Prop where
  increasing : r.objectTypes.Pairwise (· < ·)
  mem_iff (name : String) : name ∈ r.objectTypes ↔ ∃ kind, (name, kind) ∈ bindings
  contains_iff (name : String) : r.contains name = true ↔ name ∈ r.objectTypes
  isSome_get?_iff (name : String) : (r.get? name).isSome = true ↔ name ∈ r.objectTypes
  objectType_eq : ∀ entry ∈ r.entries, entry.2.objectType = entry.1
  get?_eq (name : String) :
    r.get? name = (lastBound? bindings name).map fun kind =>
      { objectType := name, returnFields := kind.returnFields, decode := kind.decode }
  decode_eq (name : String) (body : Octets) :
    r.decode name body = match lastBound? bindings name with
      | some kind => match kind.read? body with
        | some a => .ok a
        | none => .error (.decode kind.objectType)
      | none => .error (.unknownObjectType name)
  entryFor_eq_ok_iff (reference : String) (entry : RegistryEntry α) :
    r.entryFor reference = .ok entry
      ↔ ∃ name, LeadingType reference name ∧ r.get? name = some entry
  entryFor_invalid_iff (reference : String) :
    r.entryFor reference = .error (.invalidReference reference)
      ↔ ¬ ∃ name, LeadingType reference name
  entryFor_unknown_iff (reference name : String) :
    r.entryFor reference = .error (.unknownObjectType name)
      ↔ LeadingType reference name ∧ name ∉ r.objectTypes

variable {r : Registry α} {reference name : String}

/-- What stands for a reference is what is kept under the type that it begins with. -/
theorem entryFor_of_leadingType (h : LeadingType reference name) :
    r.entryFor reference = r.entry name := by
  unfold entryFor
  rw [leadingType_iff.mp h]

theorem entryFor_of_no_leadingType (h : ¬ ∃ name, LeadingType reference name) :
    r.entryFor reference = .error (.invalidReference reference) := by
  have hnone : objectTypeOf? reference = none := by
    cases htype : objectTypeOf? reference with
    | none => rfl
    | some name => exact absurd ⟨name, leadingType_iff.mpr htype⟩ h
  unfold entryFor
  rw [hnone]

theorem entryFor_eq_ok_iff {e : RegistryEntry α} :
    r.entryFor reference = .ok e ↔ ∃ name, LeadingType reference name ∧ r.get? name = some e := by
  constructor
  · intro h
    by_cases htype : ∃ name, LeadingType reference name
    · obtain ⟨name, hname⟩ := htype
      rw [entryFor_of_leadingType hname] at h
      exact ⟨name, hname, entry_eq_ok_iff.mp h⟩
    · rw [entryFor_of_no_leadingType htype] at h
      cases h
  · rintro ⟨name, hname, hentry⟩
    rw [entryFor_of_leadingType hname]
    exact entry_eq_ok_iff.mpr hentry

theorem entryFor_eq_invalid_iff :
    r.entryFor reference = .error (.invalidReference reference)
      ↔ ¬ ∃ name, LeadingType reference name := by
  refine ⟨?_, entryFor_of_no_leadingType⟩
  rintro h ⟨name, hname⟩
  rw [entryFor_of_leadingType hname] at h
  cases (entry_eq_error_iff.mp h).1

theorem entryFor_eq_unknown_iff :
    r.entryFor reference = .error (.unknownObjectType name)
      ↔ LeadingType reference name ∧ name ∉ r.objectTypes := by
  constructor
  · intro h
    by_cases htype : ∃ other, LeadingType reference other
    · obtain ⟨other, hother⟩ := htype
      rw [entryFor_of_leadingType hother] at h
      -- the failure names the type that has no entry
      obtain ⟨heq, hmem⟩ := entry_eq_error_iff.mp h
      cases heq
      exact ⟨hother, hmem⟩
    · rw [entryFor_of_no_leadingType htype] at h
      cases h
  · rintro ⟨hname, hmem⟩
    rw [entryFor_of_leadingType hname]
    exact entry_eq_error_iff.mpr ⟨rfl, hmem⟩

/-- **Every registry follows its history.** Whatever the registrations were, of kinds of any type or
of all kinds of the grid, in whatever order and under whatever names, the look-ups in the registry
that they make tell what was bound last. -/
theorem follows_history (wrap : Object → α) (history : List (Registration α)) :
    (history.foldl (Registration.perform wrap) ∅).Follows
      (history.flatMap (Registration.bindings wrap)) := by
  rw [Registration.foldl_perform]
  generalize history.flatMap (Registration.bindings wrap) = bindings
  have hcoherent := coherent_empty.registerBindings bindings
  have hentry (name : String) : (registerBindings ∅ bindings).get? name
      = (lastBound? bindings name).map (·.entry name) := by
    rw [get?_registerBindings, get?_empty, Option.or_none]
  constructor
  case increasing => exact hcoherent.pairwise_objectTypes
  case mem_iff =>
    intro name
    rw [mem_objectTypes_iff, hentry, Option.isSome_map, isSome_lastBound?_iff]
  case contains_iff => exact fun name => mem_objectTypes_iff.symm
  case isSome_get?_iff => exact fun name => mem_objectTypes_iff.symm
  case objectType_eq => exact hcoherent.objectType_eq
  case get?_eq => exact hentry
  case decode_eq =>
    intro name body
    cases hbound : lastBound? bindings name with
    | none =>
        rw [decode_of_get?_eq_none (by rw [hentry, hbound]; rfl)]
    | some kind =>
        have hkept : (registerBindings ∅ bindings).get? name = some (kind.entry name) := by
          rw [hentry, hbound]
          rfl
        exact decode_eq_of_get? hkept body
  case entryFor_eq_ok_iff => exact fun _ _ => entryFor_eq_ok_iff
  case entryFor_invalid_iff => exact fun _ => entryFor_eq_invalid_iff
  case entryFor_unknown_iff => exact fun _ _ => entryFor_eq_unknown_iff

/-- A name goes back to its own kind when that is registered again after another one. -/
example :
    ([.grid, .named Schema.grid.kind "network", .named Schema.member.kind "gm",
        .own Schema.network.kind].foldl (Registration.perform id) ∅ |>.get? "network").map
        (fun e => (e.objectType, e.returnFields))
      = some ("network", Schema.network.returnFields) := by
  decide

end Registry
end GridClient
