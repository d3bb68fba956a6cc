import GridClient.Proofs.Json.Record
import GridClient.Schema.Object

/-!
# `GridClient.Proofs.Schema.Reading` — when an object can be read, and what it then holds

An object is read from a document of the outer form of its kind in which every member fits its name.
Nothing else matters: the order of an object's members does not, nor do members under other names.
Each field then has the value of the document given for it, and none where nothing or `null` is
given.

## Contents
- `Schema.nodup_names`: the members of a kind have names that differ.
- `readFields?_eq_some_iff`, `readFields?_isSome_iff`: reading the fields of a list.
- `ofDocument?_eq_some_iff`: the parts of a reading.
- `Object.value_of_given`, `Object.value_of_not_given`: the values of an object that was read.
- `Schema.Fits`: a document fits a name; `exists_ofDocument?_iff`: when an object can be read.
- `decode_eq_ok_iff`, `decodeList_eq_ok_iff`: the same for an object and a list in a body.
-/

namespace GridClient

/-! ## Names -/

namespace Schema

/-- The members of a kind have names that differ. -/
theorem nodup_names (s : Schema) : s.layout.names.Nodup := by cases s <;> decide

theorem referenceKey_mem_names (s : Schema) : referenceKey ∈ s.layout.names :=
  List.mem_append_left _ List.mem_cons_self

theorem wireName_mem_names {s : Schema} {f : Field} (h : f ∈ s.fields) :
    f.wireName ∈ s.layout.names :=
  List.mem_append_left _ (List.mem_cons_of_mem _ (List.mem_map_of_mem h))

theorem attributesKey_mem_names {s : Schema} (h : s.hasAttributes = true) :
    attributesKey ∈ s.layout.names := by
  unfold layout
  rw [if_pos h]
  exact List.mem_append_right _ List.mem_cons_self

end Schema

/-! ## Fields -/

namespace Object

variable {schema : Schema} {room : Nat} {d : Document} {o : Object}

theorem readFields?_eq_some_iff {members : Members} {fields : List Field}
    {values values' : FieldValues} :
    readFields? members fields values = some values'
      ↔ (∀ f ∈ fields, members.optional? f.wireName f.kind.ofDocument? = some (values' f))
        ∧ ∀ f, f ∉ fields → values' f = values f := by
  induction fields generalizing values with
  | nil =>
      simp only [readFields?, Option.some.injEq, List.not_mem_nil, false_implies, implies_true,
        true_and, not_false_eq_true, forall_const]
      exact ⟨fun h f => by rw [h], fun h => (funext h).symm⟩
  | cons f fields ih =>
      simp only [readFields?, Option.bind_eq_bind, Option.bind_eq_some_iff, ih]
      constructor
      · rintro ⟨value, hvalue, hread, hrest⟩
        have hself : values' f = value ∨ f ∈ fields := by
          by_cases hf : f ∈ fields
          · exact .inr hf
          · exact .inl ((hrest f hf).trans (values.set_self f value))
        refine ⟨fun g hg => ?_, fun g hg => ?_⟩
        · rcases List.mem_cons.mp hg with rfl | hg
          · rcases hself with hself | hg
            · rw [hself]
              exact hvalue
            · exact hread g hg
          · exact hread g hg
        · rw [List.mem_cons, not_or] at hg
          exact (hrest g hg.2).trans (values.set_of_ne (Ne.symm hg.1) value)
      · rintro ⟨hread, hrest⟩
        refine ⟨values' f, hread f List.mem_cons_self,
          fun g hg => hread g (List.mem_cons_of_mem f hg), fun g hg => ?_⟩
        by_cases heq : f = g
        · subst heq
          exact (values.set_self f _).symm
        · rw [values.set_of_ne heq]
          exact hrest g fun hmem => (List.mem_cons.mp hmem).elim (fun e => heq e.symm) hg

/-- The fields of a list can be read when each of them can. -/
theorem readFields?_isSome_iff {members : Members} {fields : List Field} {values : FieldValues} :
    (readFields? members fields values).isSome = true
      ↔ ∀ f ∈ fields, (members.optional? f.wireName f.kind.ofDocument?).isSome = true := by
  induction fields generalizing values with
  | nil => simp [readFields?]
  | cons f fields ih =>
      rw [List.forall_mem_cons, readFields?]
      cases members.optional? f.wireName f.kind.ofDocument? with
      | none => simp
      | some value => simpa using ih

/-! ## Objects -/

/-- The attributes among the members; a kind without any has none. -/
def attributesIn? (schema : Schema) (room : Nat) (members : Members) : Option Attributes :=
  if schema.hasAttributes then
    members.orElse? Schema.attributesKey (Attributes.ofDocument? (room - 1)) ∅
  else some ∅

theorem ofDocument?_eq : ofDocument? schema room d
    = (schema.layout.members? d).bind fun members =>
        (members.orElse? Schema.referenceKey Document.toText? "").bind fun reference =>
          (readFields? members schema.fields .none).bind fun values =>
            (attributesIn? schema room members).bind fun attributes =>
              some { schema, reference, values, attributes } := by
  unfold ofDocument? attributesIn?
  cases schema.hasAttributes <;> rfl

/-- **The parts of a reading.** -/
theorem ofDocument?_eq_some_iff :
    ofDocument? schema room d = some o
      ↔ ∃ members, schema.layout.members? d = some members
        ∧ members.orElse? Schema.referenceKey Document.toText? "" = some o.reference
        ∧ readFields? members schema.fields .none = some o.values
        ∧ attributesIn? schema room members = some o.attributes
        ∧ ({ schema, reference := o.reference, values := o.values
             attributes := o.attributes } : Object) = o := by
  rw [ofDocument?_eq, Option.bind_eq_some_iff]
  refine exists_congr fun members => and_congr_right fun _ => ?_
  simp only [Option.bind_eq_some_iff]
  constructor
  · rintro ⟨reference, href, values, hvalues, attributes, hattributes, heq⟩
    cases heq
    exact ⟨href, hvalues, hattributes, rfl⟩
  · rintro ⟨href, hvalues, hattributes, heq⟩
    exact ⟨_, href, _, hvalues, _, hattributes, congrArg some heq⟩

theorem schema_of_ofDocument? (h : ofDocument? schema room d = some o) : o.schema = schema := by
  obtain ⟨-, -, -, -, -, heq⟩ := ofDocument?_eq_some_iff.mp h
  rw [← heq]

theorem optional?_of_ofDocument? {members : Members}
    (hmembers : schema.layout.members? d = some members)
    (h : ofDocument? schema room d = some o) {f : Field} (hf : f ∈ schema.fields) :
    members.optional? f.wireName f.kind.ofDocument? = some (o.values f) := by
  obtain ⟨members', hmembers', -, hvalues, -⟩ := ofDocument?_eq_some_iff.mp h
  rw [hmembers] at hmembers'
  cases hmembers'
  exact (readFields?_eq_some_iff.mp hvalues).1 f hf

/-- **A field has the value of what is given for it.** -/
theorem value_of_given (h : ofDocument? schema room d = some o) {f : Field} (hf : f ∈ schema.fields)
    {m : Document} (hgiven : d.Gives schema.layout.names f.wireName m) (hm : m ≠ .null) :
    ∃ value, f.kind.ofDocument? m = some value ∧ o.values f = some value := by
  obtain ⟨members, hmembers, -⟩ := ofDocument?_eq_some_iff.mp h
  have hfound : members f.wireName = some m := (Layout.members_eq_some_iff schema.nodup_names
    hmembers (Schema.wireName_mem_names hf)).mpr hgiven
  rcases Members.optional?_eq_some_iff.mp (optional?_of_ofDocument? hmembers h hf) with
    ⟨-, hnull⟩ | ⟨m', hm', -, value, hvalue, heq⟩
  · exact absurd (hnull m hfound) hm
  · rw [hfound] at hm'
    cases hm'
    exact ⟨value, hvalue, heq⟩

/-- A field for which nothing is given, or `null`, has no value. -/
theorem value_of_not_given (h : ofDocument? schema room d = some o) {f : Field}
    (hf : f ∈ schema.fields)
    (hnull : ∀ m, d.Gives schema.layout.names f.wireName m → m = .null) : o.values f = none := by
  obtain ⟨members, hmembers, -⟩ := ofDocument?_eq_some_iff.mp h
  rcases Members.optional?_eq_some_iff.mp (optional?_of_ofDocument? hmembers h hf) with
    ⟨hnone, -⟩ | ⟨m, hm, hne, -⟩
  · exact hnone
  · have hgiven : d.Gives schema.layout.names f.wireName m := (Layout.members_eq_some_iff
      schema.nodup_names hmembers (Schema.wireName_mem_names hf)).mp hm
    exact absurd (hnull m hgiven) hne

end Object

/-! ## What can be read -/

/-- A document can stand under a name in an object of a kind that nests no deeper than `room`: for
the reference a text, for a field `null` or a value of its kind, for the attributes a set of
them. -/
structure Schema.Fits (schema : Schema) (room : Nat) (name : String) (d : Document) : Prop where
  reference : name = Schema.referenceKey → ∃ text, d = .string (some text)
  field : ∀ f ∈ schema.fields, name = f.wireName →
    d = .null ∨ ∃ value, f.kind.ofDocument? d = some value
  attributes : schema.hasAttributes = true → name = Schema.attributesKey →
    ∃ attributes, Attributes.ofDocument? (room - 1) d = some attributes

namespace Object

variable {schema : Schema} {room : Nat} {d : Document}

theorem fits_of_ofDocument? {o : Object} (h : ofDocument? schema room d = some o) {name : String}
    {m : Document} (hname : name ∈ schema.layout.names)
    (hgiven : d.Gives schema.layout.names name m) : schema.Fits room name m := by
  obtain ⟨members, hmembers, href, -, hattributes, -⟩ := ofDocument?_eq_some_iff.mp h
  have hfound : members name = some m :=
    (Layout.members_eq_some_iff schema.nodup_names hmembers hname).mpr hgiven
  constructor
  · rintro rfl
    rcases Members.orElse?_eq_some_iff.mp href with ⟨hnone, -⟩ | ⟨m', hm', htext⟩
    · rw [hfound] at hnone
      cases hnone
    · rw [hfound] at hm'
      cases hm'
      exact ⟨_, Document.toText?_eq_some_iff.mp htext⟩
  · rintro f hf rfl
    by_cases hm : m = .null
    · exact .inl hm
    · obtain ⟨value, hvalue, -⟩ := value_of_given h hf hgiven hm
      exact .inr ⟨value, hvalue⟩
  · rintro hhas rfl
    unfold attributesIn? at hattributes
    rw [if_pos hhas] at hattributes
    rcases Members.orElse?_eq_some_iff.mp hattributes with ⟨hnone, -⟩ | ⟨m', hm', hread⟩
    · rw [hfound] at hnone
      cases hnone
    · rw [hfound] at hm'
      cases hm'
      exact ⟨_, hread⟩

/-- **When an object can be read**: the document has the outer form of the kind, and what it gives
under each name of the kind fits there. -/
theorem exists_ofDocument?_iff :
    (∃ o, ofDocument? schema room d = some o)
      ↔ schema.layout.Accepts d
        ∧ ∀ name ∈ schema.layout.names, ∀ m, d.Gives schema.layout.names name m →
          schema.Fits room name m := by
  constructor
  · rintro ⟨o, h⟩
    obtain ⟨members, hmembers, -⟩ := ofDocument?_eq_some_iff.mp h
    exact ⟨Layout.exists_members?_iff.mp ⟨members, hmembers⟩,
      fun name hname m hgiven => fits_of_ofDocument? h hname hgiven⟩
  · rintro ⟨haccepts, hfits⟩
    obtain ⟨members, hmembers⟩ := Layout.exists_members?_iff.mpr haccepts
    have hfound : ∀ {name m}, name ∈ schema.layout.names → members name = some m →
        schema.Fits room name m := fun hname hm =>
      hfits _ hname _ ((Layout.members_eq_some_iff schema.nodup_names hmembers hname).mp hm)
    -- each of the three parts is read from what fits it, or is missing
    have href : ∃ reference,
        members.orElse? Schema.referenceKey Document.toText? "" = some reference := by
      cases hm : members Schema.referenceKey with
      | none => exact ⟨"", Members.orElse?_eq_some_iff.mpr (.inl ⟨hm, rfl⟩)⟩
      | some m =>
          obtain ⟨text, rfl⟩ := (hfound schema.referenceKey_mem_names hm).reference rfl
          exact ⟨text, Members.orElse?_eq_some_iff.mpr (.inr ⟨_, hm, rfl⟩)⟩
    have hvalues : (readFields? members schema.fields .none).isSome = true := by
      refine readFields?_isSome_iff.mpr fun f hf => ?_
      rw [Option.isSome_iff_exists]
      cases hm : members f.wireName with
      | none =>
          refine ⟨none, Members.optional?_eq_some_iff.mpr (.inl ⟨rfl, fun m hm' => ?_⟩)⟩
          rw [hm] at hm'
          cases hm'
      | some m =>
          by_cases hnull : m = .null
          · refine ⟨none, Members.optional?_eq_some_iff.mpr (.inl ⟨rfl, fun m' hm' => ?_⟩)⟩
            rw [hm] at hm'
            cases hm'
            exact hnull
          · obtain ⟨value, hvalue⟩ :=
              ((hfound (Schema.wireName_mem_names hf) hm).field f hf rfl).resolve_left hnull
            exact ⟨some value,
              Members.optional?_eq_some_iff.mpr (.inr ⟨m, hm, hnull, value, hvalue, rfl⟩)⟩
    have hattributes : ∃ attributes, attributesIn? schema room members = some attributes := by
      unfold attributesIn?
      split
      · rename_i hhas
        cases hm : members Schema.attributesKey with
        | none => exact ⟨∅, Members.orElse?_eq_some_iff.mpr (.inl ⟨hm, rfl⟩)⟩
        | some m =>
            obtain ⟨attributes, hread⟩ :=
              (hfound (Schema.attributesKey_mem_names hhas) hm).attributes hhas rfl
            exact ⟨attributes, Members.orElse?_eq_some_iff.mpr (.inr ⟨m, hm, hread⟩)⟩
      · exact ⟨∅, rfl⟩
    obtain ⟨reference, href⟩ := href
    obtain ⟨values, hvalues⟩ := Option.isSome_iff_exists.mp hvalues
    obtain ⟨attributes, hattributes⟩ := hattributes
    exact ⟨{ schema, reference, values, attributes },
      ofDocument?_eq_some_iff.mpr ⟨members, hmembers, href, hvalues, hattributes, rfl⟩⟩

/-! ## Bodies -/

theorem decode_eq_ok_iff {context : String} {body : Text.Octets} {o : Object} :
    decode schema context body = .ok o
      ↔ ∃ d, Document.read body = some d ∧ ofDocument? schema nestingBound d = some o := by
  have hread : decode schema context body = .ok o ↔ read? schema body = some o := by
    unfold decode
    cases read? schema body <;> simp
  rw [hread]
  exact Option.bind_eq_some_iff

theorem decodeList_eq_ok_iff {context : String} {body : Text.Octets} {os : List Object} :
    decodeList schema context body = .ok os
      ↔ ∃ items, Document.read body = some (.array items)
        ∧ List.Forall₂ (fun d o => ofDocument? schema (nestingBound - 1) d = some o) items os := by
  have hread : decodeList schema context body = .ok os ↔ readList? schema body = some os := by
    unfold decodeList
    cases readList? schema body <;> simp
  rw [hread]
  refine Option.bind_eq_some_iff.trans ?_
  constructor
  · rintro ⟨d, hd, hlist⟩
    obtain ⟨items, rfl, hitems⟩ := Document.listOf?_eq_some_iff.mp hlist
    exact ⟨items, hd, hitems⟩
  · rintro ⟨items, hd, hitems⟩
    exact ⟨_, hd, Document.listOf?_eq_some_iff.mpr ⟨items, rfl, hitems⟩⟩

end Object
end GridClient
