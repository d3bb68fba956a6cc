import GridClient.Proofs.Address.Alphabet
import GridClient.Proofs.Registry.History
import GridClient.Proofs.Schema.Reading
import GridClient.Proofs.Session.Answers

/-!
# `GridClient.Proofs.Session.Types` — the type of an object that was read

A read asks for objects of a type by name, and a kind of either family has a name for each. What an
answer is read with is the kind alone; of the family there remains what the network in the answer
says. So an object that comes without its network has the name of version 4, whatever was asked for.

## Contents
- `Registry.standard_get?_eq_some_iff`: the names that the standard registry knows.
- `Document.HasNetwork`, `Document.NetworksIn`: what a document says of networks.
- `Object.TypedBy`, `Object.typedBy_of_ofDocument?`: the type of one object.
- `Verb.ReadsType`, `Verb.documents`: reads of a type, and what their objects are read from.
- `Verb.typed_of_read`: the types of all objects of a read.
-/

namespace GridClient

open Text (Octets)

variable {σ : Type}

/-! ## Names of types -/

namespace Registry

theorem lastBound?_namings_of_mem :
    ∀ schema ∈ Schema.all, ∀ name ∈ schema.objectTypes,
      lastBound? Schema.namings name = some schema := by
  decide

/-- A kind is registered under each name that its objects' types have. -/
theorem standard_get?_of_mem {name : String} {schema : Schema} (h : name ∈ schema.objectTypes) :
    standard.get? name = some (schema.kind.entry name) := by
  rw [standard_get?_eq, lastBound?_namings_of_mem schema schema.mem_all name h]
  rfl

/-- **The standard registry knows each kind by the names of its objects' types**, and nothing
else. -/
theorem standard_get?_eq_some_iff {name : String} {entry : RegistryEntry Object} :
    standard.get? name = some entry
      ↔ ∃ schema : Schema, name ∈ schema.objectTypes ∧ entry = schema.kind.entry name := by
  constructor
  · intro h
    have hbound : (lastBound? Schema.namings name).isSome = true := by
      rw [standard_get?_eq] at h
      simpa using congrArg Option.isSome h
    obtain ⟨schema, hmem⟩ := isSome_lastBound?_iff.mp hbound
    obtain ⟨_, -, hnames⟩ := List.mem_flatMap.mp hmem
    obtain ⟨_, hname, heq⟩ := List.mem_map.mp hnames
    cases heq
    rw [standard_get?_of_mem hname] at h
    exact ⟨schema, hname, (Option.some.inj h).symm⟩
  · rintro ⟨schema, hname, rfl⟩
    exact standard_get?_of_mem hname

end Registry

namespace Schema

variable {s : Schema} {name : String}

/-- The family of a type, by which of its kind's two names it has. -/
def familyOf (s : Schema) (name : String) : Family := if name = s.objectType then .v4 else .v6

theorem network_mem_fields (h : s.hasFamily = true) : Field.network ∈ s.fields := by
  cases s <;> first | exact absurd h (by decide) | decide

/-- A type's name, by the kind and the family. -/
theorem eq_of_mem_objectTypes (h : name ∈ s.objectTypes) :
    name = if s.hasFamily && (s.familyOf name).isV6 then "ipv6" ++ s.objectType
      else s.objectType := by
  unfold objectTypes at h
  unfold familyOf
  cases hfamily : s.hasFamily with
  | false =>
      rw [hfamily] at h
      simpa using h
  | true =>
      simp only [hfamily, if_true, List.mem_cons, List.not_mem_nil, or_false] at h
      by_cases hname : name = s.objectType
      · simp [hname, Family.isV6]
      · simpa [hname, Family.isV6] using h.resolve_left hname

end Schema

/-! ## Networks in a document -/

/-- A document gives a network, and not `null`, for an object of a kind. -/
def Document.HasNetwork (schema : Schema) (d : Document) : Prop :=
  ∃ m, d.Gives schema.layout.names Field.network.wireName m ∧ m ≠ .null

/-- Every network that a document gives for an object of a kind, unless it is `null`, is one of a
family in text. -/
def Document.NetworksIn (schema : Schema) (family : Family) (d : Document) : Prop :=
  ∀ m, d.Gives schema.layout.names Field.network.wireName m → m ≠ .null →
    ∃ cidr network, m = .string (some cidr) ∧ Cidr.parse? cidr = some network
      ∧ network.address.family = family

namespace NetworkValue

/-- A network in text is no request for one: the alphabet of networks has no `u`. -/
theorem parse_of_cidr {cidr : String} {network : Cidr} (h : Cidr.parse? cidr = some network) :
    parse cidr = .literal cidr := by
  have hnone : Text.dropStart? functionStart cidr = none := by
    refine if_neg fun hstart => ?_
    have hmem : 'u' ∈ cidr.toList :=
      (List.isPrefixOf_iff_prefix.mp hstart).subset (by decide : 'u' ∈ functionStart.toList)
    exact absurd (Cidr.forall_of_parse? h 'u' hmem) (by decide)
  unfold parse
  rw [hnone]
  rfl

/-- A network that is read from a text has the family of that text. -/
theorem isV6_of_ofDocument? {cidr : String} {network : Cidr} {value : NetworkValue}
    (hparse : Cidr.parse? cidr = some network)
    (h : ofDocument? (.string (some cidr)) = some value) :
    value.isV6 = network.address.family.isV6 := by
  have hvalue : cidr ≠ "" ∧ parse cidr = value := by
    simpa [ofDocument?, Document.toText?] using h
  rw [← hvalue.2, parse_of_cidr hparse]
  exact Cidr.has_colon_of_parse? hparse

end NetworkValue

/-! ## One object -/

/-- What is known of the type of an object that was read from a document, where a type was asked
for by name. -/
structure Object.TypedBy (schema : Schema) (name : String) (d : Document) (o : Object) : Prop where
  schema_eq : o.schema = schema
  /-- The object has the type that was asked for when the name is that of its kind, or when it has a
  network; of a kind of either family that network is one of the name's. -/
  objectType_eq_iff : (schema.hasFamily = true → d.NetworksIn schema (schema.familyOf name)) →
    (o.objectType = name ↔ name = schema.objectType ∨ d.HasNetwork schema)
  /-- Without a network it has the name of its kind. -/
  objectType_of_not_hasNetwork : ¬ d.HasNetwork schema → o.objectType = schema.objectType

namespace Object

variable {schema : Schema} {room : Nat} {d : Document} {o : Object} {name : String}

/-- No document sets the flag for the family. -/
theorem ipv6_of_ofDocument? (h : ofDocument? schema room d = some o) : o.ipv6 = false := by
  obtain ⟨-, -, -, -, -, heq⟩ := ofDocument?_eq_some_iff.mp h
  rw [← heq]

theorem objectType_of_not_hasFamily (hschema : o.schema = schema)
    (hfamily : schema.hasFamily = false) : o.objectType = schema.objectType := by
  unfold objectType
  rw [hschema, hfamily]
  rfl

/-- An object without a network has the name of its kind. -/
theorem objectType_of_not_given (h : ofDocument? schema room d = some o)
    (hnone : ¬ d.HasNetwork schema) : o.objectType = schema.objectType := by
  have hschema := schema_of_ofDocument? h
  cases hfamily : schema.hasFamily with
  | false => exact objectType_of_not_hasFamily hschema hfamily
  | true =>
      have hvalue : o.values .network = none := by
        refine value_of_not_given h (Schema.network_mem_fields hfamily) fun m hm => ?_
        exact Classical.byContradiction fun hne => hnone ⟨m, hm, hne⟩
      have hv6 : o.isV6 = false := by
        unfold isV6
        rw [hvalue]
        exact ipv6_of_ofDocument? h
      unfold objectType
      rw [hschema, hv6, Bool.and_false]
      rfl

/-- An object with a network of the family that was asked for has the type that was asked for. -/
theorem objectType_of_given (hname : name ∈ schema.objectTypes)
    (h : ofDocument? schema room d = some o)
    (hin : schema.hasFamily = true → d.NetworksIn schema (schema.familyOf name))
    (hsome : d.HasNetwork schema) : o.objectType = name := by
  have hschema := schema_of_ofDocument? h
  rw [Schema.eq_of_mem_objectTypes hname]
  cases hfamily : schema.hasFamily with
  | false => exact objectType_of_not_hasFamily hschema hfamily
  | true =>
      obtain ⟨m, hgiven, hne⟩ := hsome
      obtain ⟨cidr, network, rfl, hparse, hnetwork⟩ := hin hfamily m hgiven hne
      obtain ⟨value, hread, hvalue⟩ :=
        value_of_given h (Schema.network_mem_fields hfamily) hgiven hne
      have hv6 : o.isV6 = (schema.familyOf name).isV6 := by
        unfold isV6
        rw [hvalue, ← hnetwork]
        exact NetworkValue.isV6_of_ofDocument? hparse hread
      unfold objectType
      rw [hschema, hfamily, hv6]

/-- **The type of an object that was read.** -/
theorem typedBy_of_ofDocument? (hname : name ∈ schema.objectTypes)
    (h : ofDocument? schema room d = some o) : o.TypedBy schema name d where
  schema_eq := schema_of_ofDocument? h
  objectType_of_not_hasNetwork := objectType_of_not_given h
  objectType_eq_iff := by
    intro hin
    constructor
    · intro htype
      by_cases hsome : d.HasNetwork schema
      · exact .inr hsome
      · exact .inl (htype.symm.trans (objectType_of_not_given h hsome))
    · intro hcases
      by_cases hsome : d.HasNetwork schema
      · exact objectType_of_given hname h hin hsome
      · exact (objectType_of_not_given h hsome).trans (hcases.resolve_right hsome).symm

theorem TypedBy.withReference (h : o.TypedBy schema name d) (reference : String) :
    (o.withReference reference).TypedBy schema name d := by
  unfold Object.withReference
  split
  · exact ⟨h.schema_eq, h.objectType_eq_iff, h.objectType_of_not_hasNetwork⟩
  · exact h

theorem objectType_mem_objectTypes (o : Object) : o.objectType ∈ o.schema.objectTypes := by
  unfold objectType Schema.objectTypes
  cases o.schema.hasFamily <;> cases o.isV6 <;> simp

end Object

/-! ## Reads of a type -/

/-- The objects of a reply. -/
def Reply.held : Reply → List Object
  | object o => [o]
  | objects os => os
  | _ => []

namespace Verb

/-- A verb reads objects of the type with a name: by a template or pattern of that type, or by a
reference that begins with the name. -/
inductive ReadsType (name : String) : Verb → Prop
  | read {template : Object} (reference : String) (query : Query)
    (htype : template.objectType = name) : ReadsType name (.read template reference query)
  | list {pattern : Object} (query : Query) (htype : pattern.objectType = name) :
    ReadsType name (.list pattern query)
  | readNamed {reference : String} (query : Query) (htype : objectTypeOf? reference = some name) :
    ReadsType name (.readNamed .standard reference query)

/-- The documents in a body that the objects of a reply are read from: for a list its items, for
any other verb the whole. -/
def documents (v : Verb) (body : Octets) : List Document :=
  match v, Document.read body with
  | .list _ _, some (.array items) => items
  | .list _ _, _ => []
  | _, d => d.toList

/-- The types of the objects that a verb reads from a body. -/
theorem typed_of_decode {v : Verb} {name : String} {body : Octets} {reply : Reply}
    (hreads : v.ReadsType name) (h : v.decode body = .ok reply) :
    ∃ schema : Schema, Registry.standard.get? name = some (schema.kind.entry name)
      ∧ name ∈ schema.objectTypes
      ∧ List.Forall₂ (fun d o => o.TypedBy schema name d) (v.documents body) reply.held := by
  cases hreads with
  | @read template reference query htype =>
      have hmem := htype ▸ template.objectType_mem_objectTypes
      obtain ⟨_, hmap, rfl⟩ := map_eq_ok.mp h
      obtain ⟨o, hdecode, rfl⟩ := map_eq_ok.mp hmap
      obtain ⟨d, hd, ho⟩ := Object.decode_eq_ok_iff.mp hdecode
      refine ⟨template.schema, Registry.standard_get?_of_mem hmem, hmem, ?_⟩
      have hdocuments : documents (.read template reference query) body = [d] := by
        simp [documents, hd]
      rw [hdocuments]
      exact .cons ((Object.typedBy_of_ofDocument? hmem ho).withReference reference) .nil
  | @list pattern query htype =>
      have hmem := htype ▸ pattern.objectType_mem_objectTypes
      obtain ⟨os, hdecode, rfl⟩ := map_eq_ok.mp h
      obtain ⟨items, hd, hitems⟩ := Object.decodeList_eq_ok_iff.mp hdecode
      refine ⟨pattern.schema, Registry.standard_get?_of_mem hmem, hmem, ?_⟩
      have hdocuments : documents (.list pattern query) body = items := by
        simp [documents, hd]
      rw [hdocuments]
      exact hitems.imp fun d o ho => Object.typedBy_of_ofDocument? hmem ho
  | @readNamed reference query htype =>
      obtain ⟨o, hbind, rfl⟩ := map_eq_ok.mp h
      obtain ⟨entry, hentry, hdecode⟩ := bind_eq_ok.mp hbind
      -- the entry is the one for the name, so its kind is that of the name
      simp only [Registry.entryFor, htype] at hentry
      obtain ⟨schema, hname, rfl⟩ :=
        Registry.standard_get?_eq_some_iff.mp (Registry.entry_eq_ok_iff.mp hentry)
      rw [Schema.decode_entry] at hdecode
      obtain ⟨d, hd, ho⟩ := Object.decode_eq_ok_iff.mp hdecode
      refine ⟨schema, Registry.standard_get?_of_mem hname, hname, ?_⟩
      have hdocuments : documents (.readNamed .standard reference query) body = [d] := by
        simp [documents, hd]
      rw [hdocuments]
      exact .cons (Object.typedBy_of_ofDocument? hname ho) .nil

/-- **The types of the objects of a read.** A successful read of a type by name has sent one request
and reads its objects from the body of the answer, each from its own document and all of the kind
that goes by the name. Where the networks in the answer are of the name's family, an object has the
type that was asked for exactly when the name is that of its kind, or when its document has a
network. Without a network it has the name of its kind. -/
theorem typed_of_read (link : Link σ) (w : World σ) {name : String} {v : Verb} {reply : Reply}
    (hreads : v.ReadsType name) (hreply : ((v.run link).runIn w).1 = .ok reply) :
    ∃ (q : Request) (response : Response) (schema : Schema),
      (v.run link).newRequests w = [q] ∧ link.Answers w q response
      ∧ Registry.standard.get? name = some (schema.kind.entry name)
      ∧ name ∈ schema.objectTypes
      ∧ List.Forall₂ (fun d o => o.TypedBy schema name d) (v.documents response.body)
          reply.held := by
  obtain ⟨q, response, hsent, hanswers, hdecode⟩ := answered_of_ok hreply
  obtain ⟨schema, hschema, hname, htyped⟩ := typed_of_decode hreads hdecode
  exact ⟨q, response, schema, hsent, hanswers, hschema, hname, htyped⟩

/-- A list of networks of version 6, of which one comes with its network and one without. -/
theorem typed_of_read_of_list :
    let pattern : Object := { schema := .network, ipv6 := true }
    let v := Verb.list pattern { returnFields := ["network", "comment"] }
    let w := World.start [.ok ⟨200, Text.Utf8.encode
      "[\x7b\"network\":\"2001:db8::/32\"\x7d,\x7b\"comment\":\"lab\"\x7d]"⟩]
    ∃ reply, ((v.run Link.scripted).runIn w).1 = .ok reply
      ∧ reply.held.map Object.objectType = ["ipv6network", "network"]
      ∧ ∃ (q : Request) (response : Response) (schema : Schema),
        (v.run Link.scripted).newRequests w = [q] ∧ Link.scripted.Answers w q response
        ∧ Registry.standard.get? "ipv6network" = some (schema.kind.entry "ipv6network")
        ∧ "ipv6network" ∈ schema.objectTypes
        ∧ List.Forall₂ (fun d o => o.TypedBy schema "ipv6network" d) (v.documents response.body)
            reply.held := by
  intro pattern v w
  exact ⟨_, rfl, rfl, typed_of_read Link.scripted w (.list _ rfl) rfl⟩

/-- A network of version 6 whose answer has no network in it is taken for one of version 4. -/
theorem ipv6_lost :
    let v := Verb.readNamed .standard "ipv6network/ZG5z:2001%3Adb8%3A%3A/32/default"
      { returnFields := ["comment"] }
    let body := Text.Utf8.encode
      "\x7b\"_ref\":\"ipv6network/ZG5z:2001%3Adb8%3A%3A/32/default\",\"comment\":\"lab\"\x7d"
    let w := World.start [.ok ⟨200, body⟩]
    v.ReadsType "ipv6network"
      ∧ (∀ d ∈ v.documents body, d.NetworksIn .network .v6)
      ∧ ((v.run Link.scripted).runIn w).1.map (·.held.map Object.objectType)
        = .ok ["network"] := by
  intro v body w
  refine ⟨.readNamed _ rfl, ?_, rfl⟩
  have hdocuments : v.documents body = [.object
      [(some "_ref", .string (some "ipv6network/ZG5z:2001%3Adb8%3A%3A/32/default")),
        (some "comment", .string (some "lab"))]] := rfl
  rw [hdocuments, List.forall_mem_singleton]
  -- no member has the name of a network
  intro m hgiven
  cases hgiven with
  | object hmem => simp [Field.wireName] at hmem

end Verb
end GridClient
