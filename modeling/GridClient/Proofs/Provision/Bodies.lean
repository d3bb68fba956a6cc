import GridClient.Proofs.Allocation.NetworkRequest
import GridClient.Proofs.Provision.Creation
import GridClient.Proofs.Provision.Drafts
import GridClient.Proofs.Provision.Update
import GridClient.Proofs.Schema.Members
import GridClient.Proofs.Session.Shapes

/-!
# `GridClient.Proofs.Provision.Bodies` — what a creation sends, and what comes back of it

A creation writes its arguments, in the order in which the kind declares its fields, and little
else: a time to live comes with a flag, a reservation without a hardware address is for the zero
one, and what is left to the server is a function text. Attributes follow, with the mark of the
owner. The object that was sent is the one that is returned, unless the server had something to
choose.

## Contents
- `Creation.schema`, `collection`, `written`: the kind, the collection and the members of what is
  created; `fieldMembers_of_draft`, `objectType_of_draft`: the object of a creation has those.
- `Object.Within`: an object without values but for some fields; `within_of_draft`.
- `Owner.get?_stamp`: what the mark of the owner overrides.
- `exists_sent_create`: the requests of a creation; `runIn_create_of_nothing`: its outcome.
- `Provisioner.create_faithful`: every creation whose arguments pass their checks.
-/

namespace GridClient

/-! ## Kinds and collections -/

/-- The name of a type of objects of a family. -/
def Family.typeName (name : String) : Family → String
  | v4 => name
  | v6 => "ipv6" ++ name

namespace Creation

/-- The kind of what is created. -/
def schema : Creation → Schema
  | networkView .. => .networkView
  | network .. | nextNetwork .. => .network
  | networkContainer .. | nextNetworkContainer .. => .networkContainer
  | fixedAddress .. => .fixedAddress
  | ipv6FixedAddress .. => .ipv6FixedAddress
  | recordA .. => .recordA
  | recordAaaa .. => .recordAaaa
  | recordPtr .. => .recordPtr
  | recordCname .. => .recordCname
  | recordMx .. => .recordMx
  | recordTxt .. => .recordTxt
  | zoneAuth .. => .zoneAuth
  | attributeDefinition .. => .attributeDefinition

/-- The collection that it goes to. -/
def collection : Creation → String
  | networkView .. => "networkview"
  | network _ _ family _ | nextNetwork _ _ _ family _ => family.typeName "network"
  | networkContainer _ _ family _ | nextNetworkContainer _ _ _ family _ =>
    family.typeName "networkcontainer"
  | fixedAddress .. => "fixedaddress"
  | ipv6FixedAddress .. => "ipv6fixedaddress"
  | recordA .. => "record:a"
  | recordAaaa .. => "record:aaaa"
  | recordPtr .. => "record:ptr"
  | recordCname .. => "record:cname"
  | recordMx .. => "record:mx"
  | recordTxt .. => "record:txt"
  | zoneAuth .. => "zone_auth"
  | attributeDefinition .. => "extensibleattributedef"

end Creation

/-! ## Members -/

/-- The text for the next free address of a network. -/
def nextAddressText (view cidr : String) : String :=
  "func:nextavailableip:" ++ cidr ++ "," ++ view

/-- The text for the next free network of a length in a network. -/
def nextNetworkText (view cidr : String) (length : UInt8) : String :=
  "func:nextavailablenetwork:" ++ cidr ++ "," ++ view ++ "," ++ Decimal.text length.toNat

/-- The text for the address of a reservation, which counts as missing when it is empty. -/
def reservationText (view cidr : String) (ip : Option String) : String :=
  (given ip).getD (nextAddressText view cidr)

/-- The text for the address of a record. -/
def recordText : AddressValue → String
  | .literal address => address
  | .nextAvailable cidr view => nextAddressText view cidr

/-- The members of a network or container. -/
def networkMembers (view network : String) (comment : Option String) : Fields :=
  [("network_view", .string view), ("network", .string network)] ++ givenText "comment" comment

namespace Creation

/-- The members for the arguments, in declared order. -/
def written : Creation → Fields
  | networkView name comment => [("name", .string name)] ++ givenText "comment" comment
  | network view cidr _ comment | networkContainer view cidr _ comment =>
    networkMembers view cidr comment
  | nextNetwork view cidr length _ comment | nextNetworkContainer view cidr length _ comment =>
    networkMembers view (nextNetworkText view cidr length) comment
  | fixedAddress view cidr ip mac name =>
    [("network_view", .string view), ("network", .string cidr),
      ("ipv4addr", .string (reservationText view cidr ip)),
      ("mac", .string ((given mac).getD "00:00:00:00:00:00"))] ++ givenText "name" name
  | ipv6FixedAddress view cidr ip duid name =>
    [("network_view", .string view), ("network", .string cidr),
      ("ipv6addr", .string (reservationText view cidr ip)), ("duid", .string duid)]
      ++ givenText "name" name
  | recordA view name address ttl =>
    [("view", .string view), ("name", .string name), ("ipv4addr", .string (recordText address))]
      ++ givenTtl ttl
  | recordAaaa view name address ttl =>
    [("view", .string view), ("name", .string name), ("ipv6addr", .string (recordText address))]
      ++ givenTtl ttl
  | recordPtr view pointerName address ttl =>
    [("view", .string view), ("ptrdname", .string pointerName),
      (if address.isV6 then "ipv6addr" else "ipv4addr", .string (recordText address))]
      ++ givenTtl ttl
  | recordCname view canonical aliasName ttl =>
    [("view", .string view), ("name", .string aliasName), ("canonical", .string canonical)]
      ++ givenTtl ttl
  | recordMx view name mailExchanger preference ttl =>
    [("view", .string view), ("name", .string name), ("mail_exchanger", .string mailExchanger),
      ("preference", .number (.ofUInt32 preference))] ++ givenTtl ttl
  | recordTxt view name text ttl =>
    [("view", .string view), ("name", .string name), ("text", .string text)] ++ givenTtl ttl
  | zoneAuth view fqdn => [("view", .string view), ("fqdn", .string fqdn)]
  | attributeDefinition definition =>
    givenText "name" definition.name ++ givenText "type" definition.valueType
      ++ givenText "comment" definition.comment ++ givenText "flags" definition.flags
      ++ givenMember "list_values" (fun cs => .array (cs.map Choice.toJson)) definition.choices

end Creation

theorem AddressValue.text_eq_recordText (address : AddressValue) :
    address.text = recordText address := by
  cases address <;> rfl

/-- The address of a reservation is written as the one that is given, or as the next free one. -/
theorem text_of_reservedAddress {view cidr : String} {ip : Option String} {family : Family}
    {address : AddressValue} (h : reservedAddress view cidr ip family = .ok address) :
    address.text = reservationText view cidr ip := by
  unfold reservationText
  obtain ⟨network, -, ⟨hgiven, rfl⟩ | ⟨text, _, hgiven, rfl, -⟩⟩ := reservedAddress_eq_ok_iff.mp h
  · rw [hgiven]
    rfl
  · rw [hgiven]
    rfl

namespace Creation

/-- **The object of a creation holds its arguments and no other field.** -/
theorem fieldMembers_of_draft {c : Creation} {draft : Object} (h : c.draft = .ok draft) :
    draft.schema = c.schema
    ∧ Object.fieldMembers draft.values c.schema.writtenFields = c.written := by
  cases c with
  | networkView name comment | network view cidr family comment
  | networkContainer view cidr family comment | nextNetwork view cidr length family comment
  | nextNetworkContainer view cidr length family comment =>
      cases eq_ok_of_bind h
      cases comment <;> exact ⟨rfl, rfl⟩
  | fixedAddress view cidr ip hardware name | ipv6FixedAddress view cidr ip hardware name =>
      obtain ⟨address, haddress, h⟩ := bind_eq_ok.mp h
      cases eq_ok_of_bind h
      refine ⟨rfl, ?_⟩
      rw [written, ← text_of_reservedAddress haddress]
      cases name <;> rfl
  | recordA view name address ttl | recordAaaa view name address ttl =>
      cases eq_ok_of_bind (eq_ok_of_bind (eq_ok_of_bind h))
      refine ⟨rfl, ?_⟩
      rw [written, ← address.text_eq_recordText]
      cases ttl <;> rfl
  | recordPtr view pointerName address ttl =>
      cases eq_ok_of_bind (eq_ok_of_bind (eq_ok_of_bind h))
      rw [written, ← address.text_eq_recordText]
      -- the address stands in the field of its family
      by_cases hv6 : address.isV6 = true
      · rw [if_pos hv6, if_pos hv6]
        cases ttl <;> exact ⟨rfl, rfl⟩
      · rw [if_neg hv6, if_neg hv6]
        cases ttl <;> exact ⟨rfl, rfl⟩
  | recordCname view canonical aliasName ttl | recordTxt view canonical aliasName ttl =>
      cases eq_ok_of_bind (eq_ok_of_bind (eq_ok_of_bind h))
      cases ttl <;> exact ⟨rfl, rfl⟩
  | recordMx view name mailExchanger preference ttl =>
      cases eq_ok_of_bind (eq_ok_of_bind (eq_ok_of_bind h))
      cases ttl <;> exact ⟨rfl, rfl⟩
  | zoneAuth view fqdn =>
      cases eq_ok_of_bind (eq_ok_of_bind h)
      exact ⟨rfl, rfl⟩
  | attributeDefinition definition =>
      have hobject := eq_ok_of_bind h
      split at hobject
      · cases hobject
      · cases hobject
        rcases definition with ⟨_ | _, _ | _, _ | _, _ | _, _ | _⟩ <;> exact ⟨rfl, rfl⟩

/-- The members of what is created: those for the arguments, then the attributes, which all but the
definition of an attribute have. -/
def members (c : Creation) (attributes : Attributes) : Fields :=
  c.written
    ++ (if c.schema = .attributeDefinition then [] else [("extattrs", attributes.toJson)])

theorem members_of_draft {c : Creation} {draft : Object} (h : c.draft = .ok draft)
    (attributes : Attributes) :
    ({ draft with attributes } : Object).members = c.members attributes := by
  obtain ⟨hschema, hfields⟩ := fieldMembers_of_draft h
  unfold Object.members members
  rw [hschema, hfields]
  cases c <;> rfl

end Creation

/-! ## Values -/

namespace Object

variable {o : Object} {fields : List Field}

/-- No other field than those of a list has a value. -/
def Within (fields : List Field) (o : Object) : Prop := ∀ f, f ∉ fields → o.values f = none

theorem Within.empty (schema : Schema) : ({ schema } : Object).Within fields := fun _ _ => rfl

theorem Within.set (h : o.Within fields) {f : Field} (hf : f ∈ fields) (value : Option f.Value) :
    (o.set f value).Within fields := by
  intro g hg
  have hne : f ≠ g := fun heq => hg (heq ▸ hf)
  exact (FieldValues.set_of_ne _ hne value).trans (h g hg)

theorem Within.put (h : o.Within fields) {f : Field} (hf : f ∈ fields) (value : f.Value) :
    (o.put f value).Within fields := h.set hf _

theorem Within.withTtl (h : o.Within fields) (huse : .useTtl ∈ fields) (httl : .ttl ∈ fields)
    (ttl : Option UInt32) : (o.withTtl ttl).Within fields := (h.set huse _).set httl _

end Object

/-- The object of a creation has values for nothing but what is written. -/
theorem Creation.within_of_draft {c : Creation} {draft : Object} (h : c.draft = .ok draft) :
    draft.Within c.schema.writtenFields := by
  cases c with
  | networkView name comment =>
      cases eq_ok_of_bind h
      rw [schema]
      refine .set (.put (.empty _) ?_ _) ?_ _
      all_goals decide
  | network view cidr family comment | networkContainer view cidr family comment
  | nextNetwork view cidr length family comment
  | nextNetworkContainer view cidr length family comment =>
      cases eq_ok_of_bind h
      rw [schema]
      refine .set (.put (.put (fun _ _ => rfl) ?_ _) ?_ _) ?_ _
      all_goals decide
  | fixedAddress view cidr ip hardware name | ipv6FixedAddress view cidr ip hardware name =>
      obtain ⟨address, -, h⟩ := bind_eq_ok.mp h
      cases eq_ok_of_bind h
      rw [schema]
      refine .set (.put (.put (.put (.put (.empty _) ?_ _) ?_ _) ?_ _) ?_ _) ?_ _
      all_goals decide
  | recordA view name address ttl | recordAaaa view name address ttl =>
      cases eq_ok_of_bind (eq_ok_of_bind (eq_ok_of_bind h))
      rw [schema]
      refine .withTtl (.put (.put (.put (.empty _) ?_ _) ?_ _) ?_ _) ?_ ?_ ttl
      all_goals decide
  | recordPtr view pointerName address ttl =>
      cases eq_ok_of_bind (eq_ok_of_bind (eq_ok_of_bind h))
      rw [schema]
      split
      all_goals
        refine .withTtl (.put (.put (.put (.empty _) ?_ _) ?_ _) ?_ _) ?_ ?_ ttl
        all_goals decide
  | recordCname view first second ttl | recordTxt view first second ttl =>
      cases eq_ok_of_bind (eq_ok_of_bind (eq_ok_of_bind h))
      rw [schema]
      refine .withTtl (.put (.put (.put (.empty _) ?_ _) ?_ _) ?_ _) ?_ ?_ ttl
      all_goals decide
  | recordMx view name mailExchanger preference ttl =>
      cases eq_ok_of_bind (eq_ok_of_bind (eq_ok_of_bind h))
      rw [schema]
      refine .withTtl (.put (.put (.put (.put (.empty _) ?_ _) ?_ _) ?_ _) ?_ _) ?_ ?_ ttl
      all_goals decide
  | zoneAuth view fqdn =>
      cases eq_ok_of_bind (eq_ok_of_bind h)
      rw [schema]
      refine .put (.put (.empty _) ?_ _) ?_ _
      all_goals decide
  | attributeDefinition definition =>
      have hobject := eq_ok_of_bind h
      split at hobject
      · cases hobject
      · cases hobject
        rw [schema]
        refine .set (.set (.set (.set (.set (.empty _) ?_ _) ?_ _) ?_ _) ?_ _) ?_ _
        all_goals decide

/-! ## Types -/

/-- The type of a network follows the family of its text. -/
theorem Object.objectType_networkIn {schema : Schema} (hschema : schema.hasFamily = true)
    {view : String} {network : NetworkValue} {family : Family} {comment : Option String}
    (hv6 : network.isV6 = family.isV6) :
    (networkIn schema view network family comment).objectType
      = family.typeName schema.objectType := by
  show (if (schema.hasFamily && network.isV6) = true then _ else _) = _
  rw [hschema, hv6]
  cases family <;> rfl

theorem checkCidr_of_checkNetworkIn {view cidr : String} {family : Family} {network : Cidr}
    (h : checkNetworkIn view cidr family = .ok network) :
    checkCidr cidr (some family) = .ok network := eq_ok_of_bind h

/-- The object of a creation is of the type of its collection. -/
theorem Creation.objectType_of_draft {c : Creation} {draft : Object} (h : c.draft = .ok draft) :
    draft.objectType = c.collection := by
  cases c with
  | network view cidr family comment | networkContainer view cidr family comment =>
      obtain ⟨network, hnetwork, h⟩ := bind_eq_ok.mp h
      cases h
      exact Object.objectType_networkIn rfl
        (has_colon_of_checkCidr (checkCidr_of_checkNetworkIn hnetwork))
  | nextNetwork view cidr length family comment
  | nextNetworkContainer view cidr length family comment =>
      obtain ⟨passed, hpassed, h⟩ := bind_eq_ok.mp h
      cases h
      obtain ⟨network, hnetwork⟩ := checkCidr_of_checkSubnet hpassed
      exact Object.objectType_networkIn rfl (has_colon_of_checkCidr hnetwork)
  | networkView name comment =>
      cases eq_ok_of_bind h
      rfl
  | fixedAddress view cidr ip hardware name | ipv6FixedAddress view cidr ip hardware name =>
      obtain ⟨address, -, h⟩ := bind_eq_ok.mp h
      cases eq_ok_of_bind h
      rfl
  | recordA view name address ttl | recordAaaa view name address ttl =>
      cases eq_ok_of_bind (eq_ok_of_bind (eq_ok_of_bind h))
      rfl
  | recordPtr view pointerName address ttl =>
      cases eq_ok_of_bind (eq_ok_of_bind (eq_ok_of_bind h))
      cases address.isV6 <;> rfl
  | recordCname | recordMx | recordTxt =>
      cases eq_ok_of_bind (eq_ok_of_bind (eq_ok_of_bind h))
      rfl
  | zoneAuth view fqdn =>
      cases eq_ok_of_bind (eq_ok_of_bind h)
      rfl
  | attributeDefinition definition =>
      have hobject := eq_ok_of_bind h
      split at hobject
      · cases hobject
      · cases hobject
        rfl

/-! ## Attributes -/

/-- The mark of the owner overrides three attributes and leaves all others. -/
theorem Owner.get?_stamp (owner : Owner) (attributes : Attributes) (name : String) :
    (owner.stamp attributes).get? name
      = if name = "Cloud API Owned" then some (.bool true)
        else if name = "Tenant ID" then some (.text owner.tenant)
        else if name = "CMP Type" then some (.text owner.platform)
        else attributes.get? name := by
  unfold stamp
  rw [NameMap.get?_insert, NameMap.get?_insert, NameMap.get?_insert]
  simp only [ownedName, tenantName, platformName, eq_comm]

/-! ## Runs -/

namespace Provisioner

variable {σ : Type} {p : Provisioner σ} {c : Creation} {attributes : Attributes} {draft : Object}
  {w : World σ}

/-- The one request that creates something. -/
def creationRequest (p : Provisioner σ) (c : Creation) (attributes : Attributes) : Request where
  method := .post
  url := p.link.endpoint.host.baseUrl ++ c.collection
  headers := p.link.endpoint.headers
  body := some (bodyOctets (c.members (p.ownedAttributes attributes)))

theorem posts_creationRequest (p : Provisioner σ) (c : Creation) (attributes : Attributes) :
    p.Posts c.collection (c.members (p.ownedAttributes attributes))
      (p.creationRequest c attributes) :=
  ⟨rfl, rfl, rfl, Request.bears_of_body rfl⟩

theorem postRequest_of_draft (p : Provisioner σ) (hdraft : c.draft = .ok draft)
    (attributes : Attributes) :
    p.postRequest draft attributes = p.creationRequest c attributes := by
  have hmembers : (p.stamped draft attributes).members = c.members (p.ownedAttributes attributes) :=
    Creation.members_of_draft hdraft _
  have htype : (p.stamped draft attributes).objectType = c.collection := by
    show draft.objectType = _
    exact Creation.objectType_of_draft hdraft
  rw [postRequest, Endpoint.creation_eq, hmembers, htype]
  rfl

/-- A read by a blank reference sends nothing, and any other one request. -/
theorem sent_read (p : Provisioner σ) (schema : Schema) (reference : String) (w : World σ)
    (hopen : w.phase ≠ .closed) :
    ((p.read schema reference).runIn w).2.sent = w.sent
    ∨ ((p.read schema reference).runIn w).2.sent
      = w.sent ++ [p.readRequest schema reference] := by
  cases hblank : Text.isBlankText reference with
  | true =>
      left
      unfold read
      rw [Session.runIn_lift_bind_error (require_of_blank "reference" hblank)]
  | false =>
      right
      rw [p.runIn_read schema hblank hopen]
      rfl

/-- **The requests of a creation**: one that creates, and a read at most. -/
theorem exists_sent_create (p : Provisioner σ) (attributes : Attributes)
    (hdraft : c.draft = .ok draft) (hopen : w.phase ≠ .closed) :
    ∃ follow, ((p.create c attributes).runIn w).2.sent
        = w.sent ++ p.creationRequest c attributes :: follow
      ∧ (follow = [] ∨ c.wanted = .unseen ∧ ∃ r, follow = [p.readRequest c.schema r]) := by
  have hpost := postRequest_of_draft p hdraft attributes
  cases hcreated : p.created draft attributes w with
  | error e =>
      refine ⟨[], ?_, .inl rfl⟩
      rw [runIn_create_of_error hdraft hopen hcreated, hpost]
      rfl
  | ok r =>
      have hchoice : (p.referred draft attributes r).choice = c.wanted :=
        (p.choice_referred draft attributes r).trans (Creation.choice_of_draft hdraft)
      rw [runIn_create_of_ok hdraft hopen hcreated, hpost]
      cases hwanted : c.wanted with
      | nothing =>
          refine ⟨[], ?_, .inl rfl⟩
          unfold settle
          rw [hchoice, hwanted]
          rfl
      | network | ipv4Address | ipv6Address =>
          refine ⟨[], ?_, .inl rfl⟩
          rw [runIn_settle_of_shown (by rw [hchoice, hwanted]; rfl)]
          rfl
      | unseen =>
          rw [runIn_settle_of_unseen (hchoice.trans hwanted)]
          have hschema : (p.referred draft attributes r).schema = c.schema :=
            (Creation.fieldMembers_of_draft hdraft).1
          rw [hschema]
          rcases p.sent_read c.schema r (p.link.after (p.creationRequest c attributes) w) hopen with
            hsent | hsent
          · exact ⟨[], hsent, .inl rfl⟩
          · exact ⟨[_], hsent.trans (by simp), .inr ⟨rfl, r, rfl⟩⟩

/-- All that a creation may send: its own request, and a read of a record whose address the server
chose. -/
theorem of_mem_newRequests_create {q : Request} (h : q ∈ (p.create c attributes).newRequests w) :
    (∃ draft, c.draft = .ok draft)
    ∧ (q = p.creationRequest c attributes
      ∨ c.wanted = .unseen ∧ ∃ r, q = p.readRequest c.schema r) := by
  cases hdraft : c.draft with
  | error e =>
      rw [Session.newRequests, runIn_create_of_draft_error hdraft] at h
      simp at h
  | ok draft =>
      refine ⟨⟨draft, rfl⟩, ?_⟩
      by_cases hclosed : w.phase = .closed
      · rw [Session.newRequests, runIn_create_of_closed hdraft hclosed] at h
        simp at h
      · obtain ⟨follow, hsent, hfollow⟩ := p.exists_sent_create attributes hdraft hclosed
        rw [Session.newRequests_eq hsent] at h
        rcases List.mem_cons.mp h with hq | hq
        · exact .inl hq
        · rcases hfollow with rfl | ⟨hwanted, r, rfl⟩
          · cases hq
          · exact .inr ⟨hwanted, r, List.mem_singleton.mp hq⟩

/-- Where the server has nothing to choose, the object that was sent is returned. -/
theorem runIn_create_of_nothing (hdraft : c.draft = .ok draft) (hopen : w.phase ≠ .closed)
    (hwanted : c.wanted = .nothing) :
    ((p.create c attributes).runIn w).1
      = (p.created draft attributes w).map (p.referred draft attributes) := by
  cases hcreated : p.created draft attributes w with
  | error e => rw [runIn_create_of_error hdraft hopen hcreated]; rfl
  | ok r =>
      have hchoice : (p.referred draft attributes r).choice = .nothing :=
        (p.choice_referred draft attributes r).trans
          ((Creation.choice_of_draft hdraft).trans hwanted)
      rw [runIn_create_of_ok hdraft hopen hcreated]
      unfold settle
      rw [hchoice]
      rfl

end Provisioner

/-! ## The theorem -/

/-- **A creation is faithful to its arguments.** In an open session, with arguments that pass their
checks, one request creates the object in the collection of its type, and only a record whose
address is left to the server is read afterwards. The body has the members for the arguments in
declared order, with neither a reference nor a field that only the server sets, and then the
attributes with the mark of the owner. Where nothing is left to the server, the answered reference
and the object that was sent are what is returned. -/
theorem Provisioner.create_faithful {σ : Type} (p : Provisioner σ) (c : Creation)
    (attributes : Attributes) {w : World σ} (hopen : w.phase ≠ .closed)
    (hchecks : checkAll c.arguments = .ok ()) :
    let run := (p.create c attributes).runIn w
    let owned := p.ownedAttributes attributes
    let members : Fields := c.written
      ++ (if c.schema = .attributeDefinition then [] else [("extattrs", owned.toJson)])
    ∃ post, p.Posts c.collection members post
    ∧ (∃ follow, run.2.sent = w.sent ++ post :: follow
      ∧ (follow = [] ∨ c.wanted = .unseen ∧ ∃ r get, p.Asks c.schema r get ∧ follow = [get]))
    ∧ members.keys.Sublist c.schema.layout.names
    ∧ "_ref" ∉ members.keys
    ∧ (∀ f : Field, f.readOnly = true → f.wireName ∉ members.keys)
    ∧ (p.owner = none → owned = attributes)
    ∧ (∀ owner, p.owner = some owner → ∀ name, owned.get? name
        = if name = "Cloud API Owned" then some (.bool true)
          else if name = "Tenant ID" then some (.text owner.tenant)
          else if name = "CMP Type" then some (.text owner.platform)
          else attributes.get? name)
    ∧ ∃ sent : Object, sent.schema = c.schema ∧ sent.attributes = owned
        ∧ Object.fieldMembers sent.values c.schema.writtenFields = c.written
        ∧ (∀ f, f ∉ c.schema.writtenFields → sent.values f = none)
        ∧ (c.wanted = .nothing → ∀ o, run.1 = .ok o ↔ ∃ response r,
            p.link.Answers w post response
            ∧ Document.read response.body = some (.string (some r))
            ∧ o = { sent with reference := r }) := by
  intro run owned members
  obtain ⟨draft, hdraft, -⟩ := c.vets_draft.passed hchecks
  obtain ⟨hschema, hfields⟩ := Creation.fieldMembers_of_draft hdraft
  have hmembers : (p.stamped draft attributes).members = members :=
    Creation.members_of_draft hdraft owned
  have hwithin : ∀ f, f ∉ c.schema.writtenFields → draft.values f = none :=
    Creation.within_of_draft hdraft
  have hkeys := (p.stamped draft attributes).keys_sublist_names
  have href := (p.stamped draft attributes).referenceKey_notMem_keys
  have hreadOnly := fun f => (p.stamped draft attributes).readOnly_notMem_keys (f := f)
  rw [hmembers] at hkeys href
  rw [show (p.stamped draft attributes).schema = c.schema from hschema] at hkeys
  rw [hmembers] at hreadOnly
  refine ⟨_, p.posts_creationRequest c attributes, ?_, hkeys, href, hreadOnly, ?_, ?_,
    p.stamped draft attributes, hschema, rfl, hfields, hwithin, ?_⟩
  · -- whatever follows the request is a read
    obtain ⟨follow, hsent, hfollow⟩ := p.exists_sent_create attributes hdraft hopen
    refine ⟨follow, hsent, hfollow.imp_right ?_⟩
    rintro ⟨hwanted, r, rfl⟩
    exact ⟨hwanted, r, _, p.asks_readRequest c.schema r, rfl⟩
  · intro hnone
    show p.ownedAttributes attributes = attributes
    rw [ownedAttributes, hnone]
  · intro owner howner name
    show (p.ownedAttributes attributes).get? name = _
    rw [ownedAttributes, howner]
    exact owner.get?_stamp attributes name
  · intro hwanted o
    show ((p.create c attributes).runIn w).1 = .ok o ↔ _
    rw [runIn_create_of_nothing hdraft hopen hwanted, map_eq_ok]
    simp only [created_eq_ok_iff, postRequest_of_draft p hdraft]
    constructor
    · rintro ⟨r, ⟨response, hanswer, hread⟩, rfl⟩
      exact ⟨response, r, hanswer, hread, rfl⟩
    · rintro ⟨response, r, hanswer, hread, rfl⟩
      exact ⟨r, ⟨response, hanswer, hread⟩, rfl⟩

set_option maxRecDepth 4000 in
/-- An alias with a time to live, whose caller claims another tenant. -/
theorem Provisioner.create_faithful_of_alias :
    let p : Provisioner (List (Checked Response)) :=
      { link := .scripted, owner := some ⟨"OpenStack", "t-42"⟩ }
    let c := Creation.recordCname "default" "www.example.com" "web.example.com" (some 300)
    let attributes : Attributes := NameMap.ofList [("Site", .text "NY"), ("Tenant ID", .text "x")]
    let w := World.start [.ok ⟨201, Text.Utf8.encode "\"record:cname/ZG5z\""⟩]
    let run := (p.create c attributes).runIn w
    (∃ post, run.2.sent = [post] ∧ post.url = "https://grid.example:443/wapi/v2.12.3/record:cname"
      ∧ post.Bears ([("view", .string "default"), ("name", .string "web.example.com"),
        ("canonical", .string "www.example.com"), ("ttl", .number (.ofUInt32 300)),
        ("use_ttl", .bool true), ("extattrs", (p.ownedAttributes attributes).toJson)]))
    ∧ (p.ownedAttributes attributes).get? "Tenant ID" = some (.text "t-42")
    ∧ (p.ownedAttributes attributes).get? "Site" = some (.text "NY")
    ∧ ∃ o, run.1 = .ok o ∧ o.reference = "record:cname/ZG5z" := by
  intro p c attributes w run
  have hopen : w.phase ≠ .closed := by decide
  obtain ⟨post, hposts, ⟨follow, hsent, hfollow⟩, -, -, -, -, howned, sent, -, -, -, -,
    hreturned⟩ := p.create_faithful c attributes hopen rfl
  rcases hfollow with rfl | ⟨hunseen, -⟩
  · have hrun := (hreturned rfl { sent with reference := "record:cname/ZG5z" }).mpr
      ⟨_, "record:cname/ZG5z", ⟨rfl, rfl⟩, rfl, rfl⟩
    exact ⟨⟨post, hsent, hposts.url.trans rfl, hposts.bears⟩, (howned _ rfl _).trans rfl,
      (howned _ rfl _).trans rfl, _, hrun, rfl⟩
  · cases hunseen

end GridClient
