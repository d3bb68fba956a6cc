import GridClient.Proofs.Allocation.Assigned
import GridClient.Proofs.Provision.Basic
import GridClient.Proofs.Provision.Drafts
import GridClient.Proofs.Session.Shapes

/-!
# `GridClient.Proofs.Provision.Creation` — creations and what the server chose

What the server has to choose is known from the arguments before anything is sent. A network or
the address of a reservation is then taken from the reference of the new object, and the address
of a record from a read of the record.

## Contents
- `Creation.wanted`: what the server has to choose; `choice_of_draft`: a draft asks for just that.
- `Object.Settled`: an object with the server's choice in it and nothing else changed.
- `Provisioner.Posts`: what the request that creates an object says; `posts_postRequest`.
- `created_eq_ok_iff`: when a creation is answered with a reference.
- `runIn_create_of_*`: the run of a creation, by what its request is answered.
- `create_settles`: every creation that the server has to complete.
-/

namespace GridClient

/-! ## What the server has to choose -/

/-- What the server has to choose, by the arguments alone. -/
def Creation.wanted : Creation → ServerChoice
  | nextNetwork .. | nextNetworkContainer .. => .network
  | fixedAddress _ _ ip _ _ => if (given ip).isNone then .ipv4Address else .nothing
  | ipv6FixedAddress _ _ ip _ _ => if (given ip).isNone then .ipv6Address else .nothing
  | recordA _ _ address _ | recordAaaa _ _ address _ | recordPtr _ _ address _ =>
    if address.isAllocation then .unseen else .nothing
  | _ => .nothing

/-- The address of a reservation is left to the server when none is given. -/
theorem isAllocation_of_reservedAddress {view cidr : String} {ip : Option String}
    {family : Family} {address : AddressValue}
    (h : reservedAddress view cidr ip family = .ok address) :
    address.isAllocation = (given ip).isNone := by
  obtain ⟨network, -, ⟨hgiven, rfl⟩ | ⟨text, _, hgiven, rfl, -⟩⟩ := reservedAddress_eq_ok_iff.mp h
  · rw [hgiven]
    rfl
  · rw [hgiven]
    rfl

/-- **A draft asks for what its arguments leave open.** -/
theorem Creation.choice_of_draft {c : Creation} {draft : Object} (h : c.draft = .ok draft) :
    draft.choice = c.wanted := by
  cases c with
  | networkView name comment =>
      cases eq_ok_of_bind h
      rfl
  | network view cidr family comment | networkContainer view cidr family comment
  | nextNetwork view cidr length family comment
  | nextNetworkContainer view cidr length family comment =>
      cases eq_ok_of_bind h
      cases comment <;> rfl
  | fixedAddress view cidr ip hardware name | ipv6FixedAddress view cidr ip hardware name =>
      obtain ⟨address, haddress, h⟩ := bind_eq_ok.mp h
      cases eq_ok_of_bind h
      show (if address.isAllocation = true then _ else _)
        = if (given ip).isNone = true then _ else _
      rw [isAllocation_of_reservedAddress haddress]
  | recordA view name address ttl | recordAaaa view name address ttl =>
      cases eq_ok_of_bind (eq_ok_of_bind (eq_ok_of_bind h))
      cases ttl <;> cases address <;> rfl
  | recordPtr view pointerName address ttl =>
      cases eq_ok_of_bind (eq_ok_of_bind (eq_ok_of_bind h))
      -- the address stands in the field of its family
      by_cases hv6 : address.isV6 = true
      · rw [if_pos hv6]
        cases ttl <;> cases address <;> rfl
      · rw [if_neg hv6]
        cases ttl <;> cases address <;> rfl
  | recordCname | recordMx | recordTxt =>
      cases eq_ok_of_bind (eq_ok_of_bind (eq_ok_of_bind h))
      rfl
  | zoneAuth view fqdn =>
      cases eq_ok_of_bind (eq_ok_of_bind h)
      rfl
  | attributeDefinition definition =>
      have hobject := eq_ok_of_bind h
      split at hobject
      · cases hobject
      · cases hobject
        rfl

/-! ## Objects with the server's choice -/

namespace ServerChoice

/-- Whether the reference of the new object shows the choice. -/
def isShown : ServerChoice → Bool
  | network | ipv4Address | ipv6Address => true
  | nothing | unseen => false

/-- The fields that the choice is filled in to. -/
def fields : ServerChoice → List Field
  | network => [.network, .networkView]
  | ipv4Address => [.ipv4Address]
  | ipv6Address => [.ipv6Address]
  | nothing | unseen => []

end ServerChoice

namespace Object

/-- The object with what a reference shows of the server's choice. -/
def filled (o : Object) (a : Assigned) : Object :=
  match o.choice with
  | .network => (o.put .network (.literal a.value)).put .networkView a.view
  | .ipv4Address => o.put .ipv4Address (.literal a.value)
  | .ipv6Address => o.put .ipv6Address (.literal a.value)
  | .nothing | .unseen => o

/-- An object is what was sent, with a reference and with a choice of the server in the place of
the request for it. -/
structure Settled (o sent : Object) (choice : ServerChoice) (reference : String) (a : Assigned) :
    Prop where
  reference : o.reference = reference
  network : choice = .network → o.values .network = some (NetworkValue.literal a.value)
    ∧ o.values .networkView = some a.view
  ipv4Address : choice = .ipv4Address →
    o.values .ipv4Address = some (AddressValue.literal a.value)
  ipv6Address : choice = .ipv6Address →
    o.values .ipv6Address = some (AddressValue.literal a.value)
  /-- Nothing is left to choose. -/
  complete : o.choice = .nothing
  kept : ∀ f, f ∉ choice.fields → o.values f = sent.values f
  rest : { o with reference := sent.reference, values := sent.values } = sent

/-- Each choice is one for objects of its own kinds. -/
theorem schema_of_choice (o : Object) :
    (o.choice = .network → o.schema = .network ∨ o.schema = .networkContainer)
    ∧ (o.choice = .ipv4Address → o.schema = .fixedAddress)
    ∧ (o.choice = .ipv6Address → o.schema = .ipv6FixedAddress)
    ∧ (o.choice = .unseen →
        o.schema = .recordA ∨ o.schema = .recordAaaa ∨ o.schema = .recordPtr) := by
  unfold choice
  split
  all_goals first | (split <;> simp [*]) | simp

/-- A read of a record whose address is not shown asks for its attributes too. -/
theorem attributes_of_unseen {o : Object} (h : o.choice = .unseen) :
    "extattrs" ∈ o.schema.returnFields := by
  obtain ⟨-, -, -, hrecord⟩ := o.schema_of_choice
  rcases hrecord h with hschema | hschema | hschema
  all_goals
    rw [hschema]
    decide

/-- Once a choice is filled in, nothing is left to choose. -/
theorem choice_filled {o : Object} (a : Assigned) (h : o.choice.isShown = true) :
    (o.filled a).choice = .nothing := by
  obtain ⟨hnetwork, hipv4, hipv6, -⟩ := schema_of_choice o
  unfold filled
  cases hc : o.choice with
  | nothing | unseen =>
      rw [hc] at h
      cases h
  | network =>
      unfold choice put set
      rcases hnetwork hc with hschema | hschema
      · simp only [hschema]
        rfl
      · simp only [hschema]
        rfl
  | ipv4Address =>
      unfold choice put set
      simp only [hipv4 hc]
      rfl
  | ipv6Address =>
      unfold choice put set
      simp only [hipv6 hc]
      rfl

/-- A choice that is filled in is settled. -/
theorem settled_filled (sent : Object) (reference : String) (a : Assigned)
    (h : sent.choice.isShown = true) :
    (({ sent with reference } : Object).filled a).Settled sent sent.choice reference a := by
  have hcomplete := choice_filled (o := { sent with reference }) a h
  have hchoice : ({ sent with reference } : Object).choice = sent.choice := rfl
  unfold filled at hcomplete ⊢
  rw [hchoice] at hcomplete ⊢
  cases hc : sent.choice with
  | nothing | unseen =>
      rw [hc] at h
      cases h
  | network =>
      rw [hc] at hcomplete
      refine ⟨rfl, fun _ => ⟨rfl, rfl⟩, nofun, nofun, hcomplete, fun f hf => ?_, rfl⟩
      have hne : Field.networkView ≠ f ∧ Field.network ≠ f := by
        constructor <;> (rintro rfl; exact hf (by decide))
      exact (FieldValues.set_of_ne _ hne.1 _).trans (FieldValues.set_of_ne _ hne.2 _)
  | ipv4Address =>
      rw [hc] at hcomplete
      refine ⟨rfl, nofun, fun _ => rfl, nofun, hcomplete,
        fun f hf => FieldValues.set_of_ne _ ?_ _, rfl⟩
      rintro rfl
      exact hf (by decide)
  | ipv6Address =>
      rw [hc] at hcomplete
      refine ⟨rfl, nofun, nofun, fun _ => rfl, hcomplete,
        fun f hf => FieldValues.set_of_ne _ ?_ _, rfl⟩
      rintro rfl
      exact hf (by decide)

end Object

/-! ## Runs -/

namespace Provisioner

variable {σ : Type} (p : Provisioner σ)

/-- The object that a creation sends: a draft with its attributes and the mark of the owner. -/
def stamped (draft : Object) (attributes : Attributes) : Object :=
  { draft with attributes := p.ownedAttributes attributes }

/-- The same with the reference that it is answered with. -/
def referred (draft : Object) (attributes : Attributes) (reference : String) : Object :=
  { p.stamped draft attributes with reference }

/-- Neither the attributes nor the reference bear on what the server has to choose. -/
theorem choice_referred (draft : Object) (attributes : Attributes) (reference : String) :
    (p.referred draft attributes reference).choice = draft.choice := rfl

/-- A request writes members to a collection, and nothing else. -/
structure Posts (collection : String) (members : Fields) (q : Request) : Prop where
  method : q.method = .post
  url : q.url = p.link.endpoint.host.baseUrl ++ collection
  headers : q.headers = p.link.endpoint.headers
  bears : q.Bears members

/-- The request that creates it. -/
def postRequest (draft : Object) (attributes : Attributes) : Request :=
  p.link.endpoint.creation (p.stamped draft attributes)

theorem posts_postRequest (draft : Object) (attributes : Attributes) :
    p.Posts draft.objectType (p.stamped draft attributes).members
      (p.postRequest draft attributes) := by
  unfold postRequest
  rw [Endpoint.creation_eq]
  exact ⟨rfl, rfl, rfl, Request.bears_of_body rfl⟩

/-- The reference that the answer to that request yields, or why it yields none. -/
def created (draft : Object) (attributes : Attributes) (w : World σ) : Checked String :=
  p.link.outcome (p.postRequest draft attributes) (p.stamped draft attributes).objectType w
    >>= decodeText "reference returned by create"

variable {p} {c : Creation} {attributes : Attributes} {draft : Object} {w : World σ}

theorem runIn_create_of_draft_error {e : Error} (h : c.draft = .error e) :
    (p.create c attributes).runIn w = (.error e, w) :=
  Session.runIn_lift_bind_error h _ w

/-- A closed session creates nothing. -/
theorem runIn_create_of_closed (hdraft : c.draft = .ok draft) (hclosed : w.phase = .closed) :
    (p.create c attributes).runIn w = (.error .sessionClosed, w) := by
  have hpost : (p.post (p.stamped draft attributes)).runIn w = (.error .sessionClosed, w) := by
    show (p.referred draft attributes <$> p.link.create (p.stamped draft attributes)).runIn w = _
    rw [Session.runIn_map, p.link.runIn_create_of_closed _ hclosed]
    rfl
  unfold create
  rw [Session.runIn_lift_bind hdraft]
  show (p.post (p.stamped draft attributes) >>= p.settle).runIn w = _
  rw [Session.runIn_bind, hpost]

theorem runIn_post (p : Provisioner σ) (draft : Object) (attributes : Attributes) {w : World σ}
    (hopen : w.phase ≠ .closed) :
    (p.post (p.stamped draft attributes)).runIn w
      = ((p.created draft attributes w).map (p.referred draft attributes),
          p.link.after (p.postRequest draft attributes) w) := by
  show (p.referred draft attributes <$> p.link.create (p.stamped draft attributes)).runIn w = _
  rw [Session.runIn_map, p.link.runIn_create _ hopen]
  rfl

/-- A creation that is not answered with a reference ends with its one request. -/
theorem runIn_create_of_error (hdraft : c.draft = .ok draft) (hopen : w.phase ≠ .closed)
    {e : Error} (h : p.created draft attributes w = .error e) :
    (p.create c attributes).runIn w
      = (.error e, p.link.after (p.postRequest draft attributes) w) := by
  have hpost := p.runIn_post draft attributes hopen
  rw [h] at hpost
  unfold create
  rw [Session.runIn_lift_bind hdraft]
  show (p.post (p.stamped draft attributes) >>= p.settle).runIn w = _
  rw [Session.runIn_bind, hpost]
  rfl

/-- One that is answered with a reference goes on to settle the object. -/
theorem runIn_create_of_ok (hdraft : c.draft = .ok draft) (hopen : w.phase ≠ .closed)
    {reference : String} (h : p.created draft attributes w = .ok reference) :
    (p.create c attributes).runIn w
      = (p.settle (p.referred draft attributes reference)).runIn
          (p.link.after (p.postRequest draft attributes) w) := by
  have hpost := p.runIn_post draft attributes hopen
  rw [h] at hpost
  unfold create
  rw [Session.runIn_lift_bind hdraft]
  show (p.post (p.stamped draft attributes) >>= p.settle).runIn w = _
  rw [Session.runIn_bind, hpost]
  rfl

/-- A creation is answered with a reference when its request succeeds with a JSON string. -/
theorem created_eq_ok_iff {reference : String} :
    p.created draft attributes w = .ok reference
      ↔ ∃ response, p.link.Answers w (p.postRequest draft attributes) response
        ∧ Document.read response.body = some (.string (some reference)) := by
  rw [created, bind_eq_ok]
  simp only [Link.outcome_eq_ok_iff, decodeText_eq_ok_iff]
  constructor
  · rintro ⟨body, ⟨response, hanswer, rfl⟩, hread⟩
    exact ⟨response, hanswer, hread⟩
  · rintro ⟨response, hanswer, hread⟩
    exact ⟨_, ⟨response, hanswer, rfl⟩, hread⟩

/-! ### Settling -/

theorem runIn_settle_of_shown {o : Object} (h : o.choice.isShown = true) :
    (p.settle o).runIn w = ((Assigned.ofReference o.reference).map o.filled, w) := by
  unfold settle Object.filled
  cases hc : o.choice with
  | nothing | unseen =>
      rw [hc] at h
      cases h
  | network | ipv4Address | ipv6Address =>
      rw [Session.runIn_bind, Session.runIn_lift]
      cases Assigned.ofReference o.reference <;> rfl

theorem runIn_settle_of_unseen {o : Object} (h : o.choice = .unseen) :
    (p.settle o).runIn w = (p.read o.schema o.reference).runIn w := by
  unfold settle
  rw [h]

end Provisioner

/-! ## The theorem -/

/-- **What the server chose is what comes back.** With arguments that pass their checks, one request
creates the object. Where the answer is a reference, a network or a reservation that the server
completes is settled from it with no further request, or refused when the reference does not show
the choice. A record is read back instead, with its attributes. -/
theorem Provisioner.create_settles {σ : Type} (p : Provisioner σ) (c : Creation)
    (attributes : Attributes) {w : World σ} (hopen : w.phase ≠ .closed)
    (hchecks : checkAll c.arguments = .ok ()) :
    let run := (p.create c attributes).runIn w
    ∃ (draft : Object) (post : Request), c.draft = .ok draft
      ∧ p.Posts draft.objectType (p.stamped draft attributes).members post
      ∧ ∀ response r, p.link.Answers w post response →
        Document.read response.body = some (.string (some r)) →
        (c.wanted.isShown = true →
          (∀ a : Assigned, a.ShownBy r →
            ∃ o, o.Settled (p.stamped draft attributes) c.wanted r a
              ∧ run = (.ok o, p.link.after post w))
          ∧ ((∀ a : Assigned, ¬ a.ShownBy r) → ∃ e, run = (.error e, p.link.after post w)))
        ∧ (c.wanted = .unseen → Text.isBlankText r = false →
          "extattrs" ∈ draft.schema.returnFields
          ∧ ∃ get, p.ReadsBack draft.schema r get (p.link.after post w) run) := by
  intro run
  obtain ⟨draft, hdraft, -⟩ := c.vets_draft.passed hchecks
  refine ⟨draft, _, hdraft, p.posts_postRequest draft attributes, ?_⟩
  intro response r hanswer hread
  -- what is left after the answer is to settle the object that now has the reference
  have hrun : run = (p.settle (p.referred draft attributes r)).runIn
      (p.link.after (p.postRequest draft attributes) w) :=
    runIn_create_of_ok hdraft hopen (created_eq_ok_iff.mpr ⟨response, hanswer, hread⟩)
  have hchoice : (p.referred draft attributes r).choice = c.wanted :=
    (p.choice_referred draft attributes r).trans (Creation.choice_of_draft hdraft)
  constructor
  · -- a choice that the reference shows takes a pure step on the reference
    intro hshown
    have hshown' : (p.referred draft attributes r).choice.isShown = true := by
      rw [hchoice]
      exact hshown
    rw [runIn_settle_of_shown hshown'] at hrun
    rw [show (p.referred draft attributes r).reference = r from rfl] at hrun
    constructor
    · intro a ha
      refine ⟨(p.referred draft attributes r).filled a, ?_, ?_⟩
      · rw [← hchoice]
        exact Object.settled_filled (p.stamped draft attributes) r a hshown'
      · rw [Assigned.ofReference_eq_ok_iff.mpr ha] at hrun
        exact hrun
    · intro hnone
      obtain ⟨e, he⟩ := Assigned.ofReference_error hnone
      rw [he] at hrun
      exact ⟨e, hrun⟩
  · -- one that it does not show takes a read
    intro hunseen hr
    have hunseen' : (p.referred draft attributes r).choice = .unseen := hchoice.trans hunseen
    rw [runIn_settle_of_unseen hunseen'] at hrun
    rw [hrun]
    exact ⟨Object.attributes_of_unseen hunseen', _, p.readsBack_read draft.schema hr hopen⟩

set_option maxRecDepth 8000 in
/-- A network of version 6 has both separators in its value, and a record that is read back without
a reference has the one of its creation. -/
theorem Provisioner.create_settles_of_networkAndRecord :
    let p : Provisioner (List (Checked Response)) := { link := .scripted }
    let network := Creation.nextNetwork "lab" "2001:db8::/48" 64 .v6 none
    let record :=
      Creation.recordA "default" "a.example" (.nextAvailable "10.0.0.0/24" "default") none
    let networkWorld := World.start
      [.ok ⟨201, Text.Utf8.encode "\"ipv6network/ZG5z:2001:db8:0:7::/64/lab\""⟩]
    let recordWorld := World.start [.ok ⟨201, Text.Utf8.encode "\"record:a/ZG5z\""⟩,
      .ok ⟨200, Text.Utf8.encode "\x7b\"ipv4addr\":\"10.0.0.7\"\x7d"⟩]
    (∃ draft post o, network.draft = .ok draft
      ∧ p.Posts draft.objectType (p.stamped draft ∅).members post
      ∧ o.values .network = some (NetworkValue.literal "2001:db8:0:7::/64")
      ∧ (p.create network ∅).runIn networkWorld = (.ok o, p.link.after post networkWorld))
    ∧ ∃ o, ((p.create record ∅).runIn recordWorld).1 = .ok o
      ∧ o.reference = "record:a/ZG5z"
      ∧ o.values .ipv4Address = some (AddressValue.literal "10.0.0.7") := by
  intro p network record networkWorld recordWorld
  constructor
  · have hshown : (⟨"2001:db8:0:7::/64", "lab"⟩ : Assigned).ShownBy
        "ipv6network/ZG5z:2001:db8:0:7::/64/lab" :=
      ⟨"ipv6network", "ZG5z", by decide, by decide, by decide, by decide, by decide, by decide⟩
    have hopen : networkWorld.phase ≠ .closed := by decide
    obtain ⟨draft, post, hdraft, hposts, h⟩ := p.create_settles network ∅ hopen rfl
    obtain ⟨hsettled, -⟩ := h _ "ipv6network/ZG5z:2001:db8:0:7::/64/lab" ⟨rfl, rfl⟩ rfl
    obtain ⟨o, ho, hrun⟩ := (hsettled rfl).1 _ hshown
    exact ⟨draft, post, o, hdraft, hposts, (ho.network rfl).1, hrun⟩
  · have hopen : recordWorld.phase ≠ .closed := by decide
    obtain ⟨draft, post, hdraft, -, h⟩ := p.create_settles record ∅ hopen rfl
    obtain ⟨-, hread⟩ := h _ "record:a/ZG5z" ⟨rfl, rfl⟩ rfl
    obtain ⟨-, get, hreads⟩ := hread rfl rfl
    cases hdraft
    exact ⟨_, hreads.object _ _ rfl rfl rfl, rfl, rfl⟩

end GridClient
