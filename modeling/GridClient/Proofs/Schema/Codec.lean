import GridClient.Proofs.Allocation.Codec
import GridClient.Proofs.Attribute.Codec
import GridClient.Proofs.Schema.Members

/-!
# `GridClient.Proofs.Schema.Codec` — an object that was read is written and read again

Whatever a text gave for an object, in an array or an object, with other members or in an odd
spelling, what is written of the object is a fixed point: it is read as the same object, but for
what is never written and for truth values among the attributes, and written as the same text.

## Contents
- `Rereads`, `FieldKind.rereads_of_ofDocument?`: a value that was read for a field is read from what
  is written of it.
- `Object.reread`, `ofDocument?_toJson`: what is read again of an object.
- `Object.stable_under_rewriting`: every kind is stable under writing and reading.
-/

namespace GridClient

open Text

/-! ## Fields -/

/-- What is written of a value is read as that value. -/
def Rereads {α : Type} (read : Document → Option α) (toJson : α → Json) (value : α) : Prop :=
  read (toJson value).document = some value ∧ (toJson value).document ≠ .null

section Rereads

variable {d : Document}

/-- A member that is written when it has a value is read as that value, or as none. -/
theorem optional?_of_rereads {α : Type} {read : Document → Option α} {toJson : α → Json}
    {members : Members} {name : String} {value : Option α}
    (hget : members name = value.map fun a => (toJson a).document)
    (h : ∀ a, value = some a → Rereads read toJson a) :
    members.optional? name read = some value := by
  refine Members.optional?_eq_some_iff.mpr ?_
  cases value with
  | none => exact .inl ⟨rfl, fun m hm => by rw [hget] at hm; cases hm⟩
  | some a =>
      obtain ⟨hread, hnull⟩ := h a rfl
      exact .inr ⟨_, hget, hnull, a, hread, rfl⟩

theorem rereads_text (s : String) : Rereads Document.toText? .string s := ⟨rfl, nofun⟩

theorem rereads_count (n : UInt32) :
    Rereads Document.toUInt32? (fun n => .number (.ofUInt32 n)) n := by
  refine ⟨?_, nofun⟩
  have hvalue : (Number.ofUInt32 n).written.value? = some (.ofUInt32 n) := Number.value?_written _
  have hnat : (Number.ofUInt32 n).toNat? (UInt32.size - 1) = some n.toNat := by
    have hlt := n.toNat_lt
    refine (if_pos ⟨Int.natCast_nonneg _, ?_⟩).trans (congrArg some (Int.toNat_natCast _))
    have hsize : UInt32.size = 2 ^ 32 := rfl
    omega
  show (((Number.ofUInt32 n).written.value?).bind (Number.toNat? (UInt32.size - 1))).map _ = _
  rw [hvalue, Option.bind_some, hnat, Option.map_some, UInt32.ofNat_toNat]

theorem rereads_address {a : AddressValue} (h : AddressValue.ofDocument? d = some a) :
    Rereads AddressValue.ofDocument? AddressValue.toJson a := by
  obtain ⟨s, -, rfl⟩ := Option.map_eq_some_iff.mp h
  refine ⟨?_, nofun⟩
  show some (AddressValue.parse (AddressValue.parse s).text) = _
  rw [AddressValue.text_parse]

theorem rereads_network {n : NetworkValue} (h : NetworkValue.ofDocument? d = some n) :
    Rereads NetworkValue.ofDocument? NetworkValue.toJson n :=
  ⟨NetworkValue.ofDocument?_document_of_ofDocument? h, nofun⟩

theorem rereads_vip (v : VipSetting) : Rereads VipSetting.ofDocument? VipSetting.toJson v := by
  refine ⟨?_, nofun⟩
  obtain ⟨fields, hfields, hnodup, haddress, hgateway, hmask⟩ : ∃ fields : Fields,
      v.toJson = .object fields ∧ fields.keys.Nodup
      ∧ fields.get? "address" = v.address.map .string
      ∧ fields.get? "gateway" = v.gateway.map .string
      ∧ fields.get? "subnet_mask" = v.subnetMask.map .string := by
    refine ⟨_, rfl, ?_⟩
    rcases v with ⟨_ | _, _ | _, _ | _⟩ <;> simp [Fields.get?, Fields.keys]
  have hread : ∀ {members : Members} {name : String} {value : Option String},
      members name = (value.map Json.string).map Json.document →
      members.optional? name Document.toText? = some value := by
    intro members name value hget
    exact optional?_of_rereads (hget.trans (Option.map_map _ _ _)) fun s _ => rereads_text s
  rw [VipSetting.ofDocument?, hfields, VipSetting.layout.members?_document hnodup]
  dsimp only [Option.bind_eq_bind, Option.bind_some]
  rw [hread (congrArg (Option.map Json.document) haddress),
    hread (congrArg (Option.map Json.document) hgateway),
    hread (congrArg (Option.map Json.document) hmask)]
  rfl

theorem rereads_choices (cs : List Choice) : Rereads (Document.listOf? Choice.ofDocument?)
    (fun cs => .array (cs.map Choice.toJson)) cs := by
  refine ⟨Document.listOf?_eq_some_iff.mpr ⟨_, rfl, ?_⟩, nofun⟩
  induction cs with
  | nil => exact .nil
  | cons c cs ih =>
      refine .cons ?_ ih
      have honce : (Fields.keys [("value", .string c.value)]).Nodup := List.nodup_singleton "value"
      have hmembers := Choice.layout.members?_document honce
      show Choice.ofDocument? c.toJson.document = some c
      rw [Choice.ofDocument?, Choice.toJson, hmembers]
      rfl

/-- **A value that was read for a field is read from what is written of it.** -/
theorem FieldKind.rereads_of_ofDocument? {kind : FieldKind} {value : kind.Value}
    (h : kind.ofDocument? d = some value) : Rereads kind.ofDocument? kind.toJson value := by
  cases kind with
  | text => exact ⟨rfl, nofun⟩
  | count => exact rereads_count value
  | flag => exact ⟨rfl, nofun⟩
  | address => exact rereads_address h
  | network => exact rereads_network h
  | vip => exact rereads_vip value
  | choices => exact rereads_choices value

theorem FieldKind.rereads_of_optional? {kind : FieldKind} {value : kind.Value} {members : Members}
    {name : String} (h : members.optional? name kind.ofDocument? = some (some value)) :
    Rereads kind.ofDocument? kind.toJson value := by
  rcases Members.optional?_eq_some_iff.mp h with ⟨hnone, -⟩ | ⟨m, -, -, a, ha, heq⟩
  · cases hnone
  · cases heq
    exact rereads_of_ofDocument? ha

end Rereads

/-! ## Reading again -/

namespace Object

/-- What is read of an object that is written: nothing that is never written, and words for truth
values among the attributes. -/
def reread (o : Object) : Object :=
  { o with
    reference := ""
    values := fun f => if f.readOnly then none else o.values f
    attributes := o.attributes.written }

theorem reread_values_of_readOnly (o : Object) {f : Field} (h : f.readOnly = true) :
    o.reread.values f = none := if_pos h

theorem reread_values_of_written (o : Object) {f : Field} (h : f.readOnly = false) :
    o.reread.values f = o.values f := if_neg (by rw [h]; decide)

theorem members_reread (o : Object) : o.reread.members = o.members := by
  have hfields : fieldMembers o.reread.values o.schema.writtenFields
      = fieldMembers o.values o.schema.writtenFields := by
    refine List.filterMap_congr fun f hf => ?_
    rw [o.reread_values_of_written (Schema.mem_writtenFields.mp hf).2]
  show fieldMembers o.reread.values o.schema.writtenFields ++ (if o.schema.hasAttributes
    then [(Schema.attributesKey, o.attributes.written.toJson)] else []) = _
  rw [hfields, Attributes.toJson_written]
  rfl

/-- What is written of an object, member by member. -/
def writtenMembers (o : Object) : Members := fun name => (o.members.get? name).map Json.document

theorem members?_toJson (o : Object) :
    o.schema.layout.members? o.toJson.document = some o.writtenMembers :=
  o.schema.layout.members?_document o.nodup_keys

theorem writtenMembers_eq_none {o : Object} {key : String} (h : key ∉ o.members.keys) :
    o.writtenMembers key = none := by
  rw [writtenMembers, Fields.get?_eq_none_of_notMem h]
  rfl

variable {o : Object} {members : Members} {room : Nat}

theorem readFields?_writtenMembers
    (h : readFields? members o.schema.fields .none = some o.values) :
    readFields? o.writtenMembers o.schema.fields .none = some o.reread.values := by
  obtain ⟨hread, hothers⟩ := readFields?_eq_some_iff.mp h
  refine readFields?_eq_some_iff.mpr ⟨fun f hf => ?_, fun f hf => ?_⟩
  · cases hreadOnly : f.readOnly with
    | true =>
        have hget : o.writtenMembers f.wireName
            = (none : Option f.Value).map fun value => (f.kind.toJson value).document :=
          writtenMembers_eq_none (o.readOnly_notMem_keys hreadOnly)
        rw [o.reread_values_of_readOnly hreadOnly]
        exact optional?_of_rereads hget nofun
    | false =>
        have hget : o.writtenMembers f.wireName
            = (o.values f).map fun value => (f.kind.toJson value).document := by
          rw [writtenMembers, get?_members_field hf hreadOnly, Option.map_map]
          rfl
        rw [o.reread_values_of_written hreadOnly]
        exact optional?_of_rereads hget fun value hvalue =>
          FieldKind.rereads_of_optional? ((hread f hf).trans (congrArg some hvalue))
  · have hnone : o.values f = none := hothers f hf
    show (if f.readOnly then none else o.values f) = none
    rw [hnone, ite_self]

theorem attributesIn?_writtenMembers (h : attributesIn? o.schema room members = some o.attributes)
    (hintegral : o.attributes.Integral) (hroom : 3 ≤ room) :
    attributesIn? o.schema room o.writtenMembers = some o.reread.attributes := by
  unfold attributesIn? at h ⊢
  split at h
  · rename_i hhas
    rw [if_pos hhas]
    have hdepth : o.attributes.toJson.depth ≤ room - 1 := by
      rcases Members.orElse?_eq_some_iff.mp h with ⟨-, hempty⟩ | ⟨m, -, hm⟩
      · rw [hempty]
        show 1 ≤ room - 1
        omega
      · exact Attributes.depth_of_ofDocument? hm (by omega)
    refine Members.orElse?_eq_some_iff.mpr (.inr ⟨o.attributes.toJson.document, ?_,
      Attributes.ofDocument?_toJson hintegral hdepth⟩)
    rw [writtenMembers, get?_members_attributes hhas]
    rfl
  · rename_i hhas
    rw [if_neg hhas]
    have hempty : o.attributes = ∅ := (Option.some.inj h).symm
    show some ∅ = some o.attributes.written
    rw [hempty]
    rfl

/-- **An object that was read is read again from what is written of it.** -/
theorem ofDocument?_toJson {schema : Schema} {d : Document}
    (h : ofDocument? schema room d = some o) (hintegral : o.attributes.Integral)
    (hroom : 3 ≤ room) : ofDocument? schema room o.toJson.document = some o.reread := by
  obtain rfl := schema_of_ofDocument? h
  obtain ⟨members, -, -, hvalues, hattributes, heq⟩ := ofDocument?_eq_some_iff.mp h
  have hreference : o.writtenMembers.orElse? Schema.referenceKey Document.toText? "" = some "" :=
    Members.orElse?_eq_some_iff.mpr
      (.inl ⟨writtenMembers_eq_none o.referenceKey_notMem_keys, rfl⟩)
  exact ofDocument?_eq_some_iff.mpr ⟨_, o.members?_toJson, hreference,
    readFields?_writtenMembers hvalues, attributesIn?_writtenMembers hattributes hintegral hroom,
    congrArg reread heq⟩

/-- **Every kind is stable under writing and reading.** Of an object that was read from any text, in
whatever form, and whose attributes have no real numbers, the declared members are written in their
order, never the reference or a field that only the server sets. What is written is read as the same
object without these, with words for truth values among its attributes, and that object is written
as the same text. -/
theorem stable_under_rewriting (schema : Schema) (text : Octets) (o : Object)
    (h : read? schema text = some o) (hintegral : o.attributes.Integral) :
    let again : Object :=
      { o with
        reference := ""
        values := fun f => if f.readOnly then none else o.values f
        attributes := o.attributes.written }
    o.toJson = .object o.members
    ∧ o.members.keys.Sublist schema.layout.names
    ∧ Schema.referenceKey ∉ o.members.keys
    ∧ (∀ f : Field, f.readOnly = true → f.wireName ∉ o.members.keys)
    ∧ read? schema (Utf8.encode o.toJson.text) = some again
    ∧ again.toJson.text = o.toJson.text := by
  intro again
  have hagain : again = o.reread := rfl
  obtain ⟨d, -, hd⟩ := Option.bind_eq_some_iff.mp h
  obtain rfl := schema_of_ofDocument? hd
  refine ⟨rfl, o.keys_sublist_names, o.referenceKey_notMem_keys, fun f => o.readOnly_notMem_keys,
    ?_, ?_⟩
  · rw [read?, Document.read_text]
    exact ofDocument?_toJson hd hintegral (by decide)
  · rw [hagain, toJson, members_reread, toJson]

/-- A request for a network in an array, with an odd spelling of the length and a truth value. -/
theorem stable_under_rewriting_of_array :
    let text := Utf8.encode (Json.text (.array [.string "network/r", .string "default",
      .string "func:nextavailablenetwork:10.0.0.0/8,lab,+024", .null,
      .object [("Cloud", .object [("value", .bool true)])]]))
    ∃ o, read? .network text = some o ∧ o.attributes.Integral
      ∧ o.members = [("network_view", .string "default"),
        ("network", .string "func:nextavailablenetwork:10.0.0.0/8,lab,24"),
        ("extattrs", .object [("Cloud", .object [("value", .string "True")])])]
      ∧ read? .network (Utf8.encode o.toJson.text) = some o.reread := by
  intro text
  obtain ⟨o, ho⟩ : ∃ o : Object, o =
    { schema := .network, reference := "network/r"
      values := ((FieldValues.none.set .networkView (some "default")).set .network
        (some (NetworkValue.nextAvailable "10.0.0.0/8" "lab" 24))).set .comment none
      attributes := NameMap.ofList [("Cloud", .bool true)] } := ⟨_, rfl⟩
  have hread : read? .network text = some o := by
    rw [read?, Document.read_text, ho]
    rfl
  have hintegral : o.attributes.Integral := by
    intro name value hget
    rw [ho] at hget
    cases List.mem_singleton.mp (NameMap.get?_eq_some_iff.mp hget)
    exact .bool true
  refine ⟨o, hread, hintegral, by rw [ho]; rfl, ?_⟩
  exact (stable_under_rewriting .network text o hread hintegral).2.2.2.2.1

end Object

end GridClient
