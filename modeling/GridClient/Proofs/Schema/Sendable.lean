import GridClient.Address.Cidr
import GridClient.Address.Mac
import GridClient.Proofs.Request.Body
import GridClient.Proofs.Schema.Members
import GridClient.Proofs.Session.Exchange
import GridClient.Schema.Object

/-!
# `GridClient.Proofs.Schema.Sendable` — values that may be sent

What stands in a body for an address, a network or a hardware address has a form of its own: a text
that the local check accepts, or a function text around such a text. An object whose values have
these forms makes requests whose bodies have them, in whatever way it is sent.

## Contents
- `AddressText`, `NetworkText`: the two forms; `Fields.WellFormed`: the members of a body have them.
- `Endpoint.collectionFamily`, `Request.WellFormed`: a request goes to the collection of a family,
  and its body fits it.
- `Object.Holds`: the values of an object have their forms; `Holds.put` and `Holds.set`.
- `Object.Sendable`; `Sendable.creation`, `Sendable.listing`, `Holds.change`: the requests made of
  an object.
-/

namespace GridClient

/-! ## Forms of values -/

/-- The texts that may stand for an address of a family. -/
inductive AddressText (family : Family) : String → Prop
  | literal {text : String} {address : Address} (h : checkAddress text family = .ok address) :
    AddressText family text
  /-- The next free one in a network of the family. -/
  | nextAvailable {cidr view : String} {network : Cidr}
    (hcidr : checkCidr cidr (some family) = .ok network)
    (hview : Text.isBlankText view = false) :
    AddressText family ("func:nextavailableip:" ++ cidr ++ "," ++ view)

/-- The texts that may stand for a network of a family. -/
inductive NetworkText (family : Family) : String → Prop
  | literal {cidr : String} {network : Cidr} (h : checkCidr cidr (some family) = .ok network) :
    NetworkText family cidr
  /-- The next free one of a length in a network of the family. -/
  | nextAvailable {cidr view : String} {network : Cidr} {length : UInt8}
    (hcidr : checkCidr cidr (some family) = .ok network)
    (hview : Text.isBlankText view = false) (hlength : checkLength length family = .ok ()) :
    NetworkText family
      ("func:nextavailablenetwork:" ++ cidr ++ "," ++ view ++ "," ++ Decimal.text length.toNat)

/-- The members of a body that is sent to a collection of a family have the forms of their names. -/
structure Fields.WellFormed (family : Family) (fields : Fields) : Prop where
  ipv4addr : ∀ value, ("ipv4addr", value) ∈ fields → ∃ s, value = .string s ∧ AddressText .v4 s
  ipv6addr : ∀ value, ("ipv6addr", value) ∈ fields → ∃ s, value = .string s ∧ AddressText .v6 s
  network : ∀ value, ("network", value) ∈ fields → ∃ s, value = .string s ∧ NetworkText family s
  mac : ∀ value, ("mac", value) ∈ fields → ∃ s, value = .string s ∧ checkMac s = .ok ()

/-- The family of the collection that a request goes to. -/
def Endpoint.collectionFamily (e : Endpoint) (q : Request) : Family :=
  if (e.host.baseUrl ++ "ipv6").toList <+: q.url.toList then .v6 else .v4

/-- The body of a request, if it has one, fits the collection that it goes to. -/
def Request.WellFormed (e : Endpoint) (q : Request) : Prop :=
  q.body ≠ none → ∃ fields, q.Bears fields ∧ Fields.WellFormed (e.collectionFamily q) fields

theorem Request.wellFormed_of_none {e : Endpoint} {q : Request} (h : q.body = none) :
    q.WellFormed e := fun hbody => absurd h hbody

/-! ## Values of an object -/

/-- A value has the form of its field, in an object of a family. -/
def Field.Accepts (family : Family) : (f : Field) → f.Value → Prop
  | .ipv4Address, (a : AddressValue) => AddressText .v4 a.text
  | .ipv6Address, (a : AddressValue) => AddressText .v6 a.text
  | .network, (n : NetworkValue) => NetworkText family n.text
  | .parentNetwork, (s : String) => NetworkText family s
  | .mac, (s : String) => checkMac s = .ok ()
  | _, _ => True

namespace Object

/-- The values of an object have their forms, if it is of the given family. -/
def Holds (family : Family) (o : Object) : Prop :=
  ∀ f value, o.values f = some value → f.Accepts family value

variable {family : Family} {o : Object}

theorem holds_of_none (h : o.values = .none) : o.Holds family := by
  intro f value hvalue
  rw [h] at hvalue
  cases hvalue

theorem Holds.set (h : o.Holds family) {f : Field} {value : Option f.Value}
    (hvalue : ∀ v, value = some v → f.Accepts family v) : (o.set f value).Holds family := by
  intro g v hv
  by_cases hg : f = g
  · subst hg
    refine hvalue v ?_
    rw [← hv]
    exact (FieldValues.set_self o.values f value).symm
  · refine h g v ?_
    rw [← hv]
    exact (FieldValues.set_of_ne o.values hg value).symm

theorem Holds.put (h : o.Holds family) {f : Field} {value : f.Value}
    (hvalue : f.Accepts family value) : (o.put f value).Holds family := by
  refine h.set fun v hv => ?_
  cases hv
  exact hvalue

/-! ## Members -/

/-- A member under the name of a field comes from a value of a field of that name. -/
theorem exists_of_mem_members {name : String} {j : Json} (h : (name, j) ∈ o.members)
    (hname : name ≠ Schema.attributesKey) :
    ∃ f value, o.values f = some value ∧ f.wireName = name ∧ f.kind.toJson value = j := by
  rcases mem_members_iff.mp h with ⟨f, -, -, value, hvalue, heq⟩ | ⟨-, heq⟩
  · exact ⟨f, value, hvalue, congrArg Prod.fst heq, congrArg Prod.snd heq⟩
  · exact absurd (congrArg Prod.fst heq) hname

/-- **The members of an object have the forms of its values.** -/
theorem Holds.wellFormed_members (h : o.Holds family) : Fields.WellFormed family o.members where
  ipv4addr value hmem := by
    obtain ⟨f, v, hv, hname, hjson⟩ := exists_of_mem_members hmem (by decide)
    have hf : f = .ipv4Address := by cases f <;> first | rfl | exact absurd hname (by decide)
    subst hf
    exact ⟨_, hjson.symm, h _ v hv⟩
  ipv6addr value hmem := by
    obtain ⟨f, v, hv, hname, hjson⟩ := exists_of_mem_members hmem (by decide)
    have hf : f = .ipv6Address := by cases f <;> first | rfl | exact absurd hname (by decide)
    subst hf
    exact ⟨_, hjson.symm, h _ v hv⟩
  network value hmem := by
    obtain ⟨f, v, hv, hname, hjson⟩ := exists_of_mem_members hmem (by decide)
    have hf : f = .network ∨ f = .parentNetwork := by
      cases f <;> first | exact Or.inl rfl | exact Or.inr rfl | exact absurd hname (by decide)
    rcases hf with rfl | rfl
    · exact ⟨_, hjson.symm, h _ v hv⟩
    · exact ⟨_, hjson.symm, h _ v hv⟩
  mac value hmem := by
    obtain ⟨f, v, hv, hname, hjson⟩ := exists_of_mem_members hmem (by decide)
    have hf : f = .mac := by cases f <;> first | rfl | exact absurd hname (by decide)
    subst hf
    exact ⟨_, hjson.symm, h _ v hv⟩

/-! ## Collections -/

/-- The family of the collection that an object belongs to. -/
def collectionFamily (o : Object) : Family :=
  if "ipv6".toList <+: o.objectType.toList then .v6 else .v4

theorem collectionFamily_eq (o : Object) :
    o.collectionFamily
      = Family.ofIpv6 (o.schema == .ipv6FixedAddress || o.schema.hasFamily && o.isV6) := by
  unfold collectionFamily objectType
  cases o.schema <;> cases o.isV6 <;> decide

theorem four_le_length_objectType (o : Object) :
    "ipv6".toList.length ≤ o.objectType.toList.length := by
  unfold objectType
  cases o.schema <;> cases o.isV6 <;> decide

/-- The collection is named first in the address of a request, and what follows does not change its
family. -/
theorem collectionFamily_of_url (o : Object) {e : Endpoint} {q : Request} {suffix : String}
    (h : q.url = e.host.baseUrl ++ o.objectType ++ suffix) :
    e.collectionFamily q = o.collectionFamily := by
  have hbegins : (e.host.baseUrl ++ "ipv6").toList <+: q.url.toList
      ↔ "ipv6".toList <+: o.objectType.toList := by
    rw [h, String.toList_append, String.toList_append, String.toList_append, List.append_assoc,
      List.prefix_append_right_inj]
    -- the name of a type is long enough to decide whether it begins so
    constructor
    · intro hlong
      exact List.prefix_of_prefix_length_le hlong (List.prefix_append _ _)
        o.four_le_length_objectType
    · intro hshort
      exact hshort.trans (List.prefix_append _ _)
  unfold Endpoint.collectionFamily collectionFamily
  by_cases hv6 : "ipv6".toList <+: o.objectType.toList
  · rw [if_pos (hbegins.mpr hv6), if_pos hv6]
  · rw [if_neg (mt hbegins.mp hv6), if_neg hv6]

/-- An object whose values have the forms that its collection asks for, and which is not searched
for by its attributes. -/
structure Sendable (o : Object) : Prop where
  holds : o.Holds o.collectionFamily
  criteria : o.criteria = ∅

/-- The attributes of an object have no part in the forms of its values. -/
theorem Sendable.withAttributes (h : o.Sendable) (attributes : Attributes) :
    ({ o with attributes } : Object).Sendable where
  holds := h.holds
  criteria := h.criteria

/-! ## Requests -/

/-- The creation of an object is well-formed. -/
theorem Sendable.creation (h : o.Sendable) (e : Endpoint) : (e.creation o).WellFormed e := by
  have hurl : (e.creation o).url = e.host.baseUrl ++ o.objectType ++ "" := by
    rw [e.creation_eq, String.append_empty]
  have hfamily : e.collectionFamily (e.creation o) = o.collectionFamily :=
    o.collectionFamily_of_url hurl
  intro _
  refine ⟨o.members, Request.bears_of_body ?_, hfamily ▸ h.holds.wellFormed_members⟩
  rw [e.creation_eq]

/-- Without criteria the fields of a search are the members of the object. -/
theorem body_listing (hobject : o.criteria = ∅) (e : Endpoint) (query : Query)
    (hquery : query.criteria = ∅) :
    (e.request .get (some o.snapshot) "" query).body
      = if o.members = [] then none else some (bodyOctets o.members) := by
  have hcriteria : searchCriteria (some o.snapshot) query = ∅ :=
    Criteria.overlay_eq_empty_iff.mpr ⟨hobject, hquery⟩
  have hfields : searchFields (some o.snapshot) query = o.members := by
    unfold searchFields
    rw [hcriteria, Criteria.wireFields_eq_nil_iff.mpr rfl]
    rfl
  show (requestBody .get (some o.snapshot) "" query).map bodyOctets = _
  rw [requestBody_search, hfields]
  split <;> rfl

/-- A search by the values of an object is well-formed. -/
theorem Sendable.listing (h : o.Sendable) (e : Endpoint) {query : Query}
    (hquery : query.criteria = ∅) :
    (e.request .get (some o.snapshot) "" query).WellFormed e := by
  have hfamily : e.collectionFamily (e.request .get (some o.snapshot) "" query)
      = o.collectionFamily := o.collectionFamily_of_url rfl
  have hbody := body_listing h.criteria e query hquery
  by_cases hnil : o.members = []
  · rw [if_pos hnil] at hbody
    exact Request.wellFormed_of_none hbody
  · rw [if_neg hnil] at hbody
    intro _
    exact ⟨o.members, Request.bears_of_body hbody, hfamily ▸ h.holds.wellFormed_members⟩

/-- A change to values that have their forms in every family is well-formed. -/
theorem Holds.change (h : ∀ family, o.Holds family) (e : Endpoint) {reference : String}
    (href : reference ≠ "") : (e.change o reference).WellFormed e := by
  intro _
  refine ⟨o.members, Request.bears_of_body ?_, (h _).wellFormed_members⟩
  rw [e.change_eq o href]

end Object
end GridClient
