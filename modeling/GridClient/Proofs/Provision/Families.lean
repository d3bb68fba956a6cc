import GridClient.Proofs.Address.Canonical
import GridClient.Proofs.Provision.Bodies
import GridClient.Proofs.Provision.Lookup

/-!
# `GridClient.Proofs.Provision.Families` — one family from the argument to the server

The family of a network is told in two ways: by the address that its text writes, which is what the
check looks at, and by a colon in the text, which decides to which collection a request goes and
which member of a pointer record takes the address. On accepted texts the two agree.

## Contents
- `Host.target?`: what the address of a request names, read back.
- `Cidr.SpelledIn`, `spelledIn_of_checkCidr`: what an accepted text is like, and what the values and
  objects made of it say about themselves.
- `Task.OnNetworks`: the operations on networks and containers; `OnNetworks.target`.
- `Task.OnPointers`: those on pointer records; `OnPointers.bearsAddress`.
- `Provisioner.families_agree`: all of it.
-/

namespace GridClient

open Text

/-! ## Targets of requests -/

/-- What an address names below the base address: all up to the query string. -/
def Host.target? (h : Host) (url : String) : Option String :=
  (dropStart? h.baseUrl url).map fun rest => String.ofList (rest.toList.takeWhile (· != '?'))

/-- A name without a question mark is read back from the address that it was put into. -/
theorem Host.target?_append (h : Host) {name : String} (hname : '?' ∉ name.toList)
    (pairs : List (String × String)) :
    h.target? (h.baseUrl ++ name ++ querySuffix pairs) = some name := by
  have hall : ∀ c ∈ name.toList, (c != '?') = true := by
    intro c hc
    rw [bne_iff_ne]
    rintro rfl
    exact hname hc
  have hsuffix : (querySuffix pairs).toList.takeWhile (· != '?') = [] := by
    unfold querySuffix
    split
    · rfl
    · rw [String.toList_ofList]
      rfl
  unfold target?
  rw [String.append_assoc, dropStart?_append, Option.map_some, String.toList_append,
    List.takeWhile_append_of_pos hall, hsuffix, List.append_nil, String.ofList_toList]

/-! ## Accepted texts -/

/-- The network, or the one that the next free one is chosen from. -/
def NetworkValue.range : NetworkValue → String
  | literal cidr => cidr
  | nextAvailable cidr _ _ => cidr

/-- The address, or the network that the next free one is chosen from. -/
def AddressValue.range : AddressValue → String
  | literal address => address
  | nextAvailable cidr _ => cidr

theorem NetworkValue.isV6_eq_has_range (n : NetworkValue) : n.isV6 = has n.range ':' := by
  cases n <;> rfl

theorem AddressValue.isV6_eq_has_range (a : AddressValue) : a.isV6 = has a.range ':' := by
  cases a <;> rfl

/-- The type of a network or container follows its network, whatever its flag says. -/
theorem Object.objectType_of_network {o : Object} {n : NetworkValue}
    (hschema : o.schema.hasFamily = true) (hvalue : o.values .network = some n) {family : Family}
    (hv6 : n.isV6 = family.isV6) :
    o.isV6 = family.isV6 ∧ o.objectType = family.typeName o.schema.objectType := by
  have hobject : o.isV6 = family.isV6 := by
    unfold isV6
    rw [hvalue]
    exact hv6
  refine ⟨hobject, ?_⟩
  unfold objectType
  rw [hschema, hobject]
  cases family <;> rfl

/-- A text writes a network of a family, and everything that tells a family by the text tells that
one. -/
structure Cidr.SpelledIn (c : Cidr) (family : Family) (s : String) : Prop where
  family_eq : c.address.family = family
  length_le : c.length ≤ family.width
  clear : c.HostBitsClear
  slash : s.toList.count '/' = 1
  comma : ',' ∉ s.toList
  colon : ':' ∈ s.toList ↔ family = .v6
  networkValue : ∀ n : NetworkValue, n.range = s → n.isV6 = family.isV6
  addressValue : ∀ a : AddressValue, a.range = s → a.isV6 = family.isV6
  /-- Networks and containers go to the collection of the family. -/
  object : ∀ (o : Object) (n : NetworkValue), o.schema.hasFamily = true →
    o.values .network = some n → n.range = s →
      o.isV6 = family.isV6 ∧ o.objectType = family.typeName o.schema.objectType

theorem Family.isV6_eq_true_iff {family : Family} : family.isV6 = true ↔ family = .v6 := by
  cases family <;> decide

/-- **An accepted text shows the family that it was accepted for.** -/
theorem spelledIn_of_checkCidr {s : String} {family : Family} {c : Cidr}
    (h : checkCidr s (some family) = .ok c) : c.SpelledIn family s := by
  obtain ⟨hparse, hclear, -⟩ := checkCidr_eq_ok_iff_parse?.mp h
  obtain ⟨-, -, -, -, hlength, -⟩ := Cidr.parse?_eq_some_iff.mp hparse
  have hfamily := family_of_checkCidr h
  have hcolon := has_colon_of_checkCidr h
  have hnetwork : ∀ n : NetworkValue, n.range = s → n.isV6 = family.isV6 := by
    rintro n rfl
    rw [n.isV6_eq_has_range, hcolon]
  refine ⟨hfamily, hfamily ▸ hlength, hclear, Cidr.count_slash_of_parse? hparse,
    comma_notMem_of_checkCidr h, ?_, hnetwork, ?_, ?_⟩
  · rw [← Family.isV6_eq_true_iff, ← hcolon, has, List.contains_iff_mem]
  · rintro a rfl
    rw [a.isV6_eq_has_range, hcolon]
  · intro o n hschema hvalue hrange
    exact Object.objectType_of_network hschema hvalue (hnetwork n hrange)

/-! ## Networks and containers -/

/-- The operations on networks or on containers of a family, by the kind: creating one, having the
next free one created, and finding one. -/
inductive Task.OnNetworks (family : Family) : String → Task → Prop
  | create (view cidr : String) (comment : Option String) (attributes : Attributes) :
    OnNetworks family "network" (.create (.network view cidr family comment) attributes)
  | allocate (view container : String) (length : UInt8) (comment : Option String)
      (attributes : Attributes) :
    OnNetworks family "network"
      (.create (.nextNetwork view container length family comment) attributes)
  | find (view cidr : String) : OnNetworks family "network" (.find (.network view cidr family))
  | createContainer (view cidr : String) (comment : Option String) (attributes : Attributes) :
    OnNetworks family "networkcontainer"
      (.create (.networkContainer view cidr family comment) attributes)
  | allocateContainer (view parent : String) (length : UInt8) (comment : Option String)
      (attributes : Attributes) :
    OnNetworks family "networkcontainer"
      (.create (.nextNetworkContainer view parent length family comment) attributes)
  | findContainer (view cidr : String) :
    OnNetworks family "networkcontainer" (.find (.networkContainer view cidr family))

/-- The pattern by which a network or container is looked for is of the type of its family. -/
theorem Lookup.objectType_of_network {view cidr : String} {family : Family} {pattern : Object} :
    ((Lookup.network view cidr family).pattern = .ok pattern →
      pattern.objectType = family.typeName "network")
    ∧ ((Lookup.networkContainer view cidr family).pattern = .ok pattern →
      pattern.objectType = family.typeName "networkcontainer") := by
  constructor
  all_goals
    intro h
    obtain ⟨network, hnetwork, h⟩ := bind_eq_ok.mp h
    cases h
    exact Object.objectType_networkIn rfl
      (has_colon_of_checkCidr (checkCidr_of_checkNetworkIn hnetwork))

variable {σ : Type} {p : Provisioner σ} {w : World σ} {q : Request}

theorem Family.questionMark_notMem_typeName {family : Family} {kind : String}
    (h : '?' ∉ kind.toList) : '?' ∉ (family.typeName kind).toList := by
  cases family with
  | v4 => exact h
  | v6 =>
      rw [typeName, String.toList_append]
      intro hmem
      rcases List.mem_append.mp hmem with hmem | hmem
      · exact absurd hmem (by decide)
      · exact h hmem

namespace Provisioner

/-- The requests of a creation that no read follows go to its collection. -/
theorem target_of_create {c : Creation} {attributes : Attributes} (hwanted : c.wanted ≠ .unseen)
    (hname : '?' ∉ c.collection.toList) (h : q ∈ (p.create c attributes).newRequests w) :
    p.link.endpoint.host.target? q.url = some c.collection := by
  obtain ⟨-, rfl | ⟨hunseen, -⟩⟩ := of_mem_newRequests_create h
  · have htarget := p.link.endpoint.host.target?_append hname []
    rw [show querySuffix [] = "" from rfl, String.append_empty] at htarget
    exact htarget
  · exact absurd hunseen hwanted

/-- The request of a look-up goes to the collection of what is looked for. -/
theorem target_of_find {l : Lookup} {name : String} (hname : '?' ∉ name.toList)
    (htype : ∀ pattern, l.pattern = .ok pattern → pattern.objectType = name)
    (h : q ∈ (p.find l).newRequests w) :
    p.link.endpoint.host.target? q.url = some name := by
  obtain ⟨pattern, hpattern, rfl⟩ := of_mem_newRequests_find h
  obtain rfl := htype pattern hpattern
  exact p.link.endpoint.host.target?_append hname _

/-- A creation whose arguments pass sends its request first, in an open session. -/
theorem newRequests_create_of_passed (p : Provisioner σ) {c : Creation} (attributes : Attributes)
    (hchecks : checkAll c.arguments = .ok ()) (hopen : w.phase ≠ .closed) :
    ∃ follow, (p.create c attributes).newRequests w = p.creationRequest c attributes :: follow
      ∧ (c.wanted ≠ .unseen → follow = []) := by
  obtain ⟨draft, hdraft, -⟩ := c.vets_draft.passed hchecks
  obtain ⟨follow, hsent, hfollow⟩ := p.exists_sent_create attributes hdraft hopen
  refine ⟨follow, Session.newRequests_eq hsent, ?_⟩
  intro hwanted
  rcases hfollow with hnone | ⟨hunseen, -⟩
  · exact hnone
  · exact absurd hunseen hwanted

end Provisioner

namespace Task.OnNetworks

variable {family : Family} {kind : String} {t : Task}

/-- Such an operation is a creation that no read follows or a look-up, of the type of the family. -/
theorem create_or_find (ht : t.OnNetworks family kind) :
    (∃ c attributes, t = .create c attributes ∧ c.collection = family.typeName kind
        ∧ c.wanted ≠ .unseen)
    ∨ ∃ l, t = .find l
        ∧ ∀ pattern, l.pattern = .ok pattern → pattern.objectType = family.typeName kind := by
  cases ht with
  | create | allocate | createContainer | allocateContainer =>
      exact .inl ⟨_, _, rfl, rfl, by simp [Creation.wanted]⟩
  | find => exact .inr ⟨_, rfl, fun _ => Lookup.objectType_of_network.1⟩
  | findContainer => exact .inr ⟨_, rfl, fun _ => Lookup.objectType_of_network.2⟩

theorem questionMark_notMem (ht : t.OnNetworks family kind) :
    '?' ∉ (family.typeName kind).toList := by
  cases ht <;> exact Family.questionMark_notMem_typeName (by decide)

/-- **Every request for a network or container** goes to the collection of its family. -/
theorem target (ht : t.OnNetworks family kind) (h : q ∈ (t.run p).newRequests w) :
    p.link.endpoint.host.target? q.url = some (family.typeName kind) := by
  have hname := ht.questionMark_notMem
  rcases ht.create_or_find with ⟨c, attributes, rfl, hcollection, hwanted⟩ | ⟨l, rfl, htype⟩
  · rw [Task.run, Session.newRequests_map] at h
    rw [← hcollection] at hname ⊢
    exact Provisioner.target_of_create hwanted hname h
  · rw [Task.run, Session.newRequests_map] at h
    exact Provisioner.target_of_find hname htype h

/-- With arguments that pass, one request is sent in an open session. -/
theorem exists_request (ht : t.OnNetworks family kind) (hopen : w.phase ≠ .closed)
    (hchecks : checkAll t.arguments = .ok ()) : ∃ q, (t.run p).newRequests w = [q] := by
  rcases ht.create_or_find with ⟨c, attributes, rfl, -, hwanted⟩ | ⟨l, rfl, -⟩
  · rw [Task.run, Session.newRequests_map]
    obtain ⟨follow, hsent, hfollow⟩ := p.newRequests_create_of_passed attributes hchecks hopen
    rw [hfollow hwanted] at hsent
    exact ⟨_, hsent⟩
  · rw [Task.run, Session.newRequests_map]
    obtain ⟨pattern, hpattern, -⟩ := l.vets_pattern.passed hchecks
    exact ⟨_, Provisioner.newRequests_find_of_ok hpattern hopen⟩

end Task.OnNetworks

/-! ## Pointer records -/

/-- The family of the address that a value writes, or of the network that the next free one is
chosen from. -/
def AddressValue.family? : AddressValue → Option Family
  | literal address => (Address.parse? address).map Address.family
  | nextAvailable cidr _ => (Cidr.parse? cidr).map (·.address.family)

/-- The member of a pointer record for an address of a family. -/
def Family.addressKey : Family → String
  | v4 => "ipv4addr"
  | v6 => "ipv6addr"

/-- The operations on pointer records with an address: creating one and finding one. -/
inductive Task.OnPointers : AddressValue → Task → Prop
  | create (view pointerName : String) (address : AddressValue) (ttl : Option UInt32)
      (attributes : Attributes) :
    OnPointers address (.create (.recordPtr view pointerName address ttl) attributes)
  | find (view pointerName ip : String) :
    OnPointers (.literal ip) (.find (.recordPtr view pointerName ip))

/-- A request bears an address: of the members for the two families that are read in its body, there
is the one for the family of the address, with the text of the address, and not the other. -/
def Request.BearsAddress (q : Request) (a : AddressValue) : Prop :=
  ∃ fields family, q.Bears fields ∧ a.family? = some family
    ∧ ∀ (other : Family) (value : Json),
        (other.addressKey, value) ∈ fields ↔ other = family ∧ value = .string a.text

theorem AddressValue.family?_of_check {a : AddressValue} {family : Family}
    (h : checkAddressValue a family = .ok ()) : a.family? = some family := by
  cases a with
  | literal address =>
      obtain ⟨read, hread, -⟩ := map_eq_ok.mp h
      obtain ⟨hparse, hfamily⟩ := parse?_of_checkAddress hread
      rw [family?, hparse, Option.map_some, hfamily]
  | nextAvailable cidr view =>
      obtain ⟨network, hnetwork, -⟩ := map_eq_ok.mp h
      have hcidr := checkCidr_of_checkNetworkIn hnetwork
      rw [family?, parse?_of_checkCidr hcidr, Option.map_some, family_of_checkCidr hcidr]

/-- The two members have different names. -/
theorem Family.addressKey_inj {first second : Family} :
    first.addressKey = second.addressKey ↔ first = second := by
  cases first <;> cases second <;> decide

/-- Members between others that bear neither name bear an address. -/
theorem Request.bearsAddress_of_fields {a : AddressValue} {family : Family} (before after : Fields)
    (hbody : q.body = some (bodyOctets (before ++ (family.addressKey, .string a.text) :: after)))
    (hfamily : a.family? = some family)
    (hothers : ∀ other : Family, other.addressKey ∉ (before ++ after).keys) :
    q.BearsAddress a := by
  refine ⟨_, family, Request.bears_of_body hbody, hfamily, ?_⟩
  intro other value
  have hnone : ∀ v, (other.addressKey, v) ∉ before ++ after := by
    intro v hmem
    exact hothers other (List.mem_map_of_mem hmem)
  constructor
  · intro hmem
    rcases List.mem_append.mp hmem with hmem | hmem
    · exact absurd (List.mem_append_left _ hmem) (hnone value)
    · rcases List.mem_cons.mp hmem with heq | hmem
      · obtain ⟨hkey, hvalue⟩ := Prod.mk.inj heq
        exact ⟨Family.addressKey_inj.mp hkey, hvalue⟩
      · exact absurd (List.mem_append_right _ hmem) (hnone value)
  · rintro ⟨rfl, rfl⟩
    simp

namespace Task.OnPointers

variable {a : AddressValue} {t : Task}

/-- The request that creates a pointer record bears its address. -/
theorem bearsAddress_creationRequest (p : Provisioner σ) {view pointerName : String}
    {ttl : Option UInt32} (attributes : Attributes) {draft : Object}
    (h : (Creation.recordPtr view pointerName a ttl).draft = .ok draft) :
    (p.creationRequest (.recordPtr view pointerName a ttl) attributes).BearsAddress a := by
  obtain ⟨_, -, h⟩ := bind_eq_ok.mp h
  obtain ⟨_, -, h⟩ := bind_eq_ok.mp h
  obtain ⟨_, haddress, -⟩ := bind_eq_ok.mp h
  apply Request.bearsAddress_of_fields [("view", .string view), ("ptrdname", .string pointerName)]
    (givenTtl ttl ++ [(Schema.attributesKey, (p.ownedAttributes attributes).toJson)])
    _ (AddressValue.family?_of_check haddress)
  · intro other
    cases ttl <;> cases other <;>
      simp [Fields.keys, givenTtl, Family.addressKey, Schema.attributesKey]
  · -- the colon that chooses the member is the one that chose the family of the check
    have hkey : (if a.isV6 = true then "ipv6addr" else "ipv4addr")
        = (Family.ofIpv6 a.isV6).addressKey := by
      cases a.isV6 <;> rfl
    have hmembers (owned : Attributes) :
        (Creation.recordPtr view pointerName a ttl).members owned
          = [("view", .string view), ("ptrdname", .string pointerName)]
            ++ ((Family.ofIpv6 a.isV6).addressKey, .string a.text)
              :: (givenTtl ttl ++ [(Schema.attributesKey, owned.toJson)]) := by
      rw [← hkey, a.text_eq_recordText]
      cases ttl <;> rfl
    rw [← hmembers]
    rfl

/-- The request that looks for a pointer record bears its address. -/
theorem bearsAddress_searchRequest (p : Provisioner σ) {view pointerName ip : String}
    {pattern : Object} (h : (Lookup.recordPtr view pointerName ip).pattern = .ok pattern) :
    (p.searchRequest pattern).BearsAddress (.literal ip) := by
  obtain ⟨_, -, hrest⟩ := bind_eq_ok.mp h
  obtain ⟨address, haddress, -⟩ := bind_eq_ok.mp hrest
  have hfamily : (AddressValue.literal ip).family? = some (Family.ofIpv6 (has ip ':')) := by
    apply AddressValue.family?_of_check
    exact map_eq_ok.mpr ⟨address, haddress, rfl⟩
  have hmembers : (Lookup.recordPtr view pointerName ip).members
      = [("view", .string view), ("ptrdname", .string pointerName)]
        ++ ((Family.ofIpv6 (has ip ':')).addressKey, .string (AddressValue.literal ip).text)
          :: [(Schema.attributesKey, (∅ : Attributes).toJson)] := by
    rw [Lookup.members, Lookup.written]
    cases has ip ':' <;> rfl
  have hbody := p.body_searchRequest h
  rw [if_neg (by rw [hmembers]; simp)] at hbody
  rw [hmembers] at hbody
  apply Request.bearsAddress_of_fields _ _ hbody hfamily
  intro other
  cases other <;> simp [Fields.keys, Family.addressKey, Schema.attributesKey]

/-- **Every request with a body** of an operation on pointer records bears its address. -/
theorem bearsAddress (ht : t.OnPointers a) (h : q ∈ (t.run p).newRequests w) :
    q.body = none ∨ q.BearsAddress a := by
  cases ht with
  | create view pointerName address ttl attributes =>
      rw [Task.run, Session.newRequests_map] at h
      obtain ⟨⟨draft, hdraft⟩, rfl | ⟨-, r, rfl⟩⟩ := Provisioner.of_mem_newRequests_create h
      · exact .inr (bearsAddress_creationRequest p attributes hdraft)
      · -- the read that shows the chosen address carries none
        exact .inl rfl
  | find view pointerName ip =>
      rw [Task.run, Session.newRequests_map] at h
      obtain ⟨pattern, hpattern, rfl⟩ := Provisioner.of_mem_newRequests_find h
      exact .inr (bearsAddress_searchRequest p hpattern)

/-- With arguments that pass, a request that bears the address is sent first in an open session. -/
theorem exists_request (ht : t.OnPointers a) (hopen : w.phase ≠ .closed)
    (hchecks : checkAll t.arguments = .ok ()) :
    ∃ q follow, (t.run p).newRequests w = q :: follow ∧ q.BearsAddress a := by
  cases ht with
  | create view pointerName _ ttl attributes =>
      rw [Task.run, Session.newRequests_map]
      have hpassed : checkAll (Creation.recordPtr view pointerName a ttl).arguments = .ok () :=
        hchecks
      obtain ⟨draft, hdraft, -⟩ := (Creation.vets_draft _).passed hpassed
      obtain ⟨follow, hsent, -⟩ := p.newRequests_create_of_passed attributes hpassed hopen
      exact ⟨_, follow, hsent, bearsAddress_creationRequest p attributes hdraft⟩
  | find view pointerName ip =>
      rw [Task.run, Session.newRequests_map]
      have hpassed : checkAll (Lookup.recordPtr view pointerName ip).arguments = .ok () := hchecks
      obtain ⟨pattern, hpattern, -⟩ := (Lookup.vets_pattern _).passed hpassed
      exact ⟨_, [], Provisioner.newRequests_find_of_ok hpattern hopen,
        bearsAddress_searchRequest p hpattern⟩

end Task.OnPointers

/-! ## The theorem -/

/-- **One family from the argument to the server.** A text that is accepted as a network of a family
writes one of that family, and whatever looks for a colon in it finds the same family. All requests
for networks and containers go to the collection of the family that is asked for, and those for
pointer records bear the address under the name of its family. All this is about every network there
is, since the canonical text of each is accepted for its family. -/
theorem Provisioner.families_agree (p : Provisioner σ) (w : World σ) :
    (∀ s family c, checkCidr s (some family) = .ok c → c.SpelledIn family s)
    ∧ (∀ (ipv6 : Bool) kind (t : Task), t.OnNetworks (Family.ofIpv6 ipv6) kind →
        (∀ q ∈ (t.run p).newRequests w,
          p.link.endpoint.host.target? q.url = some (if ipv6 then "ipv6" ++ kind else kind))
        ∧ (w.phase ≠ .closed → checkAll t.arguments = .ok () →
            ∃ q, (t.run p).newRequests w = [q]))
    ∧ (∀ a (t : Task), t.OnPointers a →
        (∀ q ∈ (t.run p).newRequests w, q.body = none ∨ q.BearsAddress a)
        ∧ (w.phase ≠ .closed → checkAll t.arguments = .ok () →
            ∃ q follow, (t.run p).newRequests w = q :: follow ∧ q.BearsAddress a))
    ∧ ∀ c : Cidr, c.length ≤ c.address.family.width → c.HostBitsClear →
        checkCidr c.text (some c.address.family) = .ok c := by
  refine ⟨fun _ _ _ => spelledIn_of_checkCidr, ?_, ?_, fun _ => checkCidr_text⟩
  · intro ipv6 kind t ht
    refine ⟨?_, ht.exists_request⟩
    intro q hq
    have htarget := ht.target hq
    cases ipv6
    · exact htarget
    · exact htarget
  · intro a t ht
    exact ⟨fun q => ht.bearsAddress, ht.exists_request⟩

/-- The next free network in one of version 6, and a pointer to an address of version 4 that is
embedded in one of version 6. -/
theorem Provisioner.families_agree_of_version6 :
    let p : Provisioner (List (Checked Response)) := { link := .scripted }
    let w := World.start []
    let c : Cidr := ⟨.ofNat .v6 (0x20010db8 <<< 96), 32⟩
    let allocation : Task := .create (.nextNetwork "default" "2001:db8::/32" 48 .v6 none) ∅
    let pointer : Task := .find (.recordPtr "default" "a.example.com" "::ffff:10.0.0.5")
    c.SpelledIn .v6 "2001:db8::/32"
    ∧ (∃ q, (allocation.run p).newRequests w = [q]
        ∧ p.link.endpoint.host.target? q.url = some "ipv6network")
    ∧ (∃ q follow, (pointer.run p).newRequests w = q :: follow
        ∧ q.BearsAddress (.literal "::ffff:10.0.0.5"))
    ∧ checkCidr c.text (some .v6) = .ok c := by
  intro p w c allocation pointer
  obtain ⟨hspelled, hnetworks, hpointers, hcanonical⟩ := p.families_agree w
  have hopen : w.phase ≠ .closed := by decide
  have hcheck : checkCidr "2001:db8::/32" (some .v6) = .ok c := by rfl
  have hclear : c.HostBitsClear := Cidr.isNetwork_iff.mp (by decide)
  refine ⟨hspelled _ _ _ hcheck, ?_, ?_, hcanonical c (by decide) hclear⟩
  · obtain ⟨htarget, hsent⟩ := hnetworks true "network" allocation (.allocate _ _ _ _ _)
    obtain ⟨q, hq⟩ := hsent hopen (by rfl)
    exact ⟨q, hq, htarget q (by rw [hq]; exact List.mem_singleton_self q)⟩
  · exact (hpointers _ pointer (.find _ _ _)).2 hopen (by rfl)

end GridClient
