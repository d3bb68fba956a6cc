import GridClient.Proofs.Provision.Basic
import GridClient.Proofs.Session.Effects

/-!
# `GridClient.Proofs.Provision.Deletion` — deletion of one kind of object

The type of which a reference has to be is picked by a look at how the reference begins. It is then
compared with what stands before the first `/`. The two looks agree: no type has a `/` in it, so a
reference that begins with a type and a `/` is of that type and of no other.

## Contents
- `BeginsWithType`: what stands before the first `/`, by its place alone.
- `Schema.isSome_dropStart?_iff`, `objectTypeOf?_eq_typeToDelete_iff`: the two looks agree.
- `Schema.deletions`: the kinds that are deleted so, with their types.
- `Provisioner.delete_eq`, `runIn_delete_of_*`: a deletion by any of its kind's types.
- `Provisioner.deletes_own_kind_alone`: what a deletion sends, for every kind and reference.
-/

namespace GridClient

variable {σ : Type}

/-! ## Types of references -/

/-- A text begins with a type: that is what stands before its first `/`. -/
def BeginsWithType (s objectType : String) : Prop :=
  '/' ∉ objectType.toList ∧ ∃ rest, s = objectType ++ "/" ++ rest

namespace Schema

variable {s : Schema} {reference name : String}

theorem proper_of_mem_objectTypes :
    ∀ s ∈ all, ∀ name ∈ s.objectTypes, name ≠ "" ∧ '/' ∉ name.toList := by decide

theorem objectTypeOf?_eq_some_iff_begins (hname : name ∈ s.objectTypes) :
    objectTypeOf? reference = some name ↔ BeginsWithType reference name := by
  obtain ⟨hne, -⟩ := proper_of_mem_objectTypes s s.mem_all name hname
  rw [objectTypeOf?_eq_some_iff, BeginsWithType]
  exact and_iff_right hne

/-- **The two looks agree**: a reference begins with the name of a type and a `/` exactly if the
name is what stands before its first `/`. -/
theorem isSome_dropStart?_iff (hname : name ∈ s.objectTypes) :
    (Text.dropStart? (name ++ "/") reference).isSome = true
      ↔ objectTypeOf? reference = some name := by
  rw [objectTypeOf?_eq_some_iff_begins hname, Option.isSome_iff_exists]
  simp only [Text.dropStart?_eq_some_iff]
  exact (and_iff_right (proper_of_mem_objectTypes s s.mem_all name hname).2).symm

theorem objectTypes_of_hasFamily (h : s.hasFamily = true) :
    s.objectTypes = [s.objectType, "ipv6" ++ s.objectType] := if_pos h

theorem objectTypes_of_not_hasFamily (h : s.hasFamily = false) :
    s.objectTypes = [s.objectType] := by
  unfold objectTypes
  rw [h]
  rfl

theorem typeToDelete_of_not_hasFamily (h : s.hasFamily = false) (reference : String) :
    s.typeToDelete reference = s.objectType := by
  unfold typeToDelete
  rw [h]
  rfl

/-- Of a kind of either family the type of version 6 is picked for its own references. -/
theorem typeToDelete_of_hasFamily (h : s.hasFamily = true) (reference : String) :
    s.typeToDelete reference
      = if objectTypeOf? reference = some ("ipv6" ++ s.objectType) then "ipv6" ++ s.objectType
        else s.objectType := by
  have hmem : "ipv6" ++ s.objectType ∈ s.objectTypes := by simp [objectTypes_of_hasFamily h]
  unfold typeToDelete
  simp only [h, Bool.true_and, isSome_dropStart?_iff hmem]

/-- **A reference is of the type that is picked for it** exactly if it is of any type of the
kind. -/
theorem objectTypeOf?_eq_typeToDelete_iff :
    objectTypeOf? reference = some (s.typeToDelete reference)
      ↔ ∃ name ∈ s.objectTypes, objectTypeOf? reference = some name := by
  cases hfamily : s.hasFamily with
  | false => simp [typeToDelete_of_not_hasFamily hfamily, objectTypes_of_not_hasFamily hfamily]
  | true =>
      rw [typeToDelete_of_hasFamily hfamily, objectTypes_of_hasFamily hfamily]
      -- a reference is of one type at most, so it is asked for version 6 only where it has it
      by_cases h : objectTypeOf? reference = some ("ipv6" ++ s.objectType)
      · simp [h]
      · simp [h]

theorem objectType_mem_objectTypes (s : Schema) : s.objectType ∈ s.objectTypes := by
  cases hfamily : s.hasFamily with
  | false => simp [objectTypes_of_not_hasFamily hfamily]
  | true => simp [objectTypes_of_hasFamily hfamily]

/-- For a reference of another kind the kind's own type is picked. -/
theorem typeToDelete_of_other (h : ¬ ∃ name ∈ s.objectTypes, objectTypeOf? reference = some name) :
    s.typeToDelete reference = s.objectType := by
  cases hfamily : s.hasFamily with
  | false => exact typeToDelete_of_not_hasFamily hfamily reference
  | true =>
      rw [typeToDelete_of_hasFamily hfamily]
      refine if_neg fun hipv6 => h ⟨_, ?_, hipv6⟩
      simp [objectTypes_of_hasFamily hfamily]

theorem any_objectTypes_iff :
    (objectTypeOf? reference).any s.objectTypes.contains = true
      ↔ ∃ name ∈ s.objectTypes, objectTypeOf? reference = some name := by
  cases objectTypeOf? reference <;> simp

/-- The kinds of which an object is deleted by a reference of its type, with those types. -/
def deletions : List (Schema × List String) :=
  [(networkView, ["networkview"]), (network, ["network", "ipv6network"]),
    (networkContainer, ["networkcontainer", "ipv6networkcontainer"]),
    (fixedAddress, ["fixedaddress"]), (ipv6FixedAddress, ["ipv6fixedaddress"]),
    (recordA, ["record:a"]), (recordAaaa, ["record:aaaa"]), (recordPtr, ["record:ptr"]),
    (recordCname, ["record:cname"]), (recordMx, ["record:mx"]), (recordTxt, ["record:txt"]),
    (zoneAuth, ["zone_auth"])]

theorem objectTypes_of_mem_deletions : ∀ d ∈ deletions, d.1.objectTypes = d.2 := by decide

end Schema

/-! ## Deleting -/

namespace Provisioner

variable {p : Provisioner σ} {schema : Schema} {reference : String} {w : World σ}

/-- A text that begins with a type is not blank. -/
theorem nonblank_of_objectTypeOf? {objectType : String}
    (h : objectTypeOf? reference = some objectType) : Text.isBlankText reference = false := by
  obtain ⟨-, -, rest, rfl⟩ := objectTypeOf?_eq_some_iff.mp h
  have hslash : Text.isBlank '/' = false := by decide
  simp [Text.isBlankText, hslash]

/-- **A deletion takes references of any of its kind's types**, and refuses all others in the name
of the kind. -/
theorem delete_eq (p : Provisioner σ) (schema : Schema) (reference : String) :
    p.delete schema reference = Session.lift (require "reference" reference) >>= fun _ =>
      if (objectTypeOf? reference).any schema.objectTypes.contains then p.link.delete reference
      else throw (.validation (.wrongType reference schema.objectType)) := by
  unfold delete deleteTyped
  refine congrArg _ (funext fun _ => ?_)
  by_cases h : ∃ name ∈ schema.objectTypes, objectTypeOf? reference = some name
  · rw [if_pos (Schema.any_objectTypes_iff.mpr h)]
    exact if_pos (Schema.objectTypeOf?_eq_typeToDelete_iff.mpr h)
  · rw [if_neg (mt Schema.any_objectTypes_iff.mp h), Schema.typeToDelete_of_other h]
    exact if_neg fun heq => h ⟨_, schema.objectType_mem_objectTypes, heq⟩

/-- A deletion by a reference of the kind is the one request that deletes. -/
theorem runIn_delete_of_ownKind (p : Provisioner σ)
    (hown : ∃ name ∈ schema.objectTypes, objectTypeOf? reference = some name)
    (h : w.phase ≠ .closed) :
    (p.delete schema reference).runIn w
      = (p.link.outcome (p.link.endpoint.deletion reference) reference w
            >>= decodeText "reference returned by delete",
          p.link.after (p.link.endpoint.deletion reference) w) := by
  have hany := Schema.any_objectTypes_iff.mpr hown
  obtain ⟨name, -, href⟩ := hown
  have hnonblank := nonblank_of_objectTypeOf? href
  rw [delete_eq, Session.runIn_lift_bind (require_of_nonblank "reference" hnonblank), if_pos hany]
  exact p.link.runIn_delete_of_open h (ne_empty_of_nonblank hnonblank)

/-- A deletion by a reference of another kind fails before anything is sent, in any phase. -/
theorem runIn_delete_of_otherKind (p : Provisioner σ)
    (hother : ¬ ∃ name ∈ schema.objectTypes, objectTypeOf? reference = some name) (w : World σ) :
    ∃ fault, (p.delete schema reference).runIn w = (.error (.validation fault), w) := by
  cases hblank : Text.isBlankText reference with
  | true =>
      exact ⟨.required "reference", by
        rw [delete_eq, Session.runIn_lift_bind_error (require_of_blank "reference" hblank)]⟩
  | false =>
      have hany := mt Schema.any_objectTypes_iff.mp hother
      exact ⟨.wrongType reference schema.objectType, by
        rw [delete_eq, Session.runIn_lift_bind (require_of_nonblank "reference" hblank),
          if_neg hany, Session.runIn_throw]⟩

/-- **A deletion of one kind deletes that kind alone.** In a session that is not closed it sends the
one request that deletes exactly if the reference begins with a type of the kind; a reference that
begins with none of them is refused by a local check, with nothing sent, in whatever phase the
session is. -/
theorem deletes_own_kind_alone (p : Provisioner σ) {schema : Schema} {types : List String}
    (h : (schema, types) ∈ Schema.deletions) (reference : String) (w : World σ) :
    (w.phase ≠ .closed →
        ((p.delete schema reference).newRequests w = [p.link.endpoint.deletion reference]
          ↔ ∃ objectType ∈ types, BeginsWithType reference objectType))
      ∧ ((¬ ∃ objectType ∈ types, BeginsWithType reference objectType) →
          ∃ fault, (p.delete schema reference).runIn w = (.error (.validation fault), w)) := by
  obtain rfl : schema.objectTypes = types := Schema.objectTypes_of_mem_deletions _ h
  have hkind : (∃ objectType ∈ schema.objectTypes, BeginsWithType reference objectType)
      ↔ ∃ name ∈ schema.objectTypes, objectTypeOf? reference = some name :=
    exists_congr fun name => and_congr_right fun hname =>
      (Schema.objectTypeOf?_eq_some_iff_begins hname).symm
  rw [hkind]
  refine ⟨fun hopen => ⟨fun hsent => ?_, fun hown => Session.newRequests_eq ?_⟩,
    fun hother => p.runIn_delete_of_otherKind hother w⟩
  · -- had it been refused, nothing would have been sent
    refine Classical.byContradiction fun hother => ?_
    obtain ⟨fault, hrun⟩ := p.runIn_delete_of_otherKind hother w
    have hnone : (p.delete schema reference).newRequests w = [] :=
      Session.newRequests_eq (by rw [hrun, List.append_nil])
    rw [hnone] at hsent
    cases hsent
  · rw [p.runIn_delete_of_ownKind hown hopen]
    rfl

/-- A container whose type begins as that of a network does is deleted as a container, and not as a
network. -/
theorem deletes_own_kind_alone_of_container :
    let p : Provisioner (List (Checked Response)) := { link := .scripted }
    let reference := "ipv6networkcontainer/ZG5z:fd00%3A%3A/64/default"
    let w : World (List (Checked Response)) := World.start []
    (p.delete .networkContainer reference).newRequests w = [p.link.endpoint.deletion reference]
      ∧ ∃ fault, (p.delete .network reference).runIn w = (.error (.validation fault), w) := by
  intro p reference w
  have hcontainer : BeginsWithType reference "ipv6networkcontainer" :=
    ⟨by decide, "ZG5z:fd00%3A%3A/64/default", by decide⟩
  -- it does begin with the name of a type of networks, but not with the `/` after it
  have hnetwork : ¬ ∃ objectType ∈ ["network", "ipv6network"],
      BeginsWithType reference objectType := by
    rintro ⟨objectType, hmem, hbegins⟩
    have href : objectTypeOf? reference = some objectType :=
      (Schema.objectTypeOf?_eq_some_iff_begins (s := .network) hmem).mpr hbegins
    have hnone : ∀ objectType ∈ ["network", "ipv6network"],
        objectTypeOf? reference ≠ some objectType := by decide
    exact hnone objectType hmem href
  exact ⟨((p.deletes_own_kind_alone (.tail _ (.tail _ (.head _))) reference w).1 nofun).mpr
      ⟨_, .tail _ (.head _), hcontainer⟩,
    (p.deletes_own_kind_alone (.tail _ (.head _)) reference w).2 hnetwork⟩

end Provisioner
end GridClient
