import GridClient.Proofs.Address.Networks
import GridClient.Proofs.Provision.Families

/-!
# `GridClient.Proofs.Provision.Reservations` — a reservation lies in its network

A reservation is made in a network, for an address that is asked for or for the next free one. An
address that is asked for is kept as it is spelled, and it has to be one of the family of the
network that begins with the bits of the network. What is sent is what passed that check, so no
request names a network and an address outside of it.

## Contents
- `checkAddress_eq_ok_iff`: which texts are addresses of a family.
- `Cidr.Covers`: a text writes an address in a network, bit by bit.
- `reservedAddress_of_given_iff`, `refused_reservedAddress`: which addresses may be asked for.
- `Creation.Reserves`, `Request.Reserves`: creating a reservation, and the request for it.
- `Provisioner.reservations_in_network`: all of it.
-/

namespace GridClient

/-! ## Addresses in a network -/

theorem checkAddress_eq_ok_iff {text : String} {family : Family} {a : Address} :
    checkAddress text family = .ok a ↔ Address.parse? text = some a ∧ a.family = family := by
  refine ⟨parse?_of_checkAddress, ?_⟩
  rintro ⟨hparse, hfamily⟩
  unfold checkAddress
  rw [hparse]
  exact if_pos hfamily

/-- A text writes an address in a network: one of its family, with its bits up to its length. -/
def Cidr.Covers (c : Cidr) (text : String) : Prop :=
  ∃ a, Address.parse? text = some a ∧ a.family = c.address.family
    ∧ ∀ i < c.length, a.bits.getMsbD i = c.address.bits.getMsbD i

theorem Cidr.covers_iff {c : Cidr} {text : String} :
    c.Covers text ↔ ∃ a, checkAddress text c.address.family = .ok a ∧ c.contains a = true := by
  simp only [Covers, checkAddress_eq_ok_iff, contains_iff]
  constructor
  · rintro ⟨a, hparse, hfamily, hbits⟩
    exact ⟨a, ⟨hparse, hfamily⟩, hfamily, hbits⟩
  · rintro ⟨a, ⟨hparse, hfamily⟩, -, hbits⟩
    exact ⟨a, hparse, hfamily, hbits⟩

/-! ## The address of a reservation -/

section Address

variable {view cidr ip : String} {family : Family} {network : Cidr}

theorem given_of_ne_empty (h : ip ≠ "") : given (some ip) = some ip := by
  simp [given, h]

theorem local_reservedAddress (view cidr : String) (ip : Option String) (family : Family) :
    Local (reservedAddress view cidr ip family) := by
  have hnetwork : Local (checkNetworkIn view cidr family) := by
    unfold checkNetworkIn
    exact (Argument.local_check (.required "network view" view)).bind fun _ =>
      local_checkCidr cidr (some family)
  refine hnetwork.bind fun network => ?_
  cases given ip with
  | none => exact local_ok _
  | some ip =>
      exact (local_checkAddress ip family).bind fun a => (local_ok _).ite (local_refuse _)

/-- **An address that is asked for has to lie in the network**, and stays as it is spelled. -/
theorem reservedAddress_of_given_iff (hnetwork : checkNetworkIn view cidr family = .ok network)
    (hne : ip ≠ "") {a : AddressValue} :
    reservedAddress view cidr (some ip) family = .ok a
      ↔ a = .literal ip ∧ network.Covers ip := by
  have hfamily : network.address.family = family :=
    family_of_checkCidr (checkCidr_of_checkNetworkIn hnetwork)
  rw [Cidr.covers_iff, hfamily, reservedAddress_eq_ok_iff, hnetwork, given_of_ne_empty hne]
  constructor
  · rintro ⟨_, hsame, ⟨hnone, -⟩ | ⟨_, address, hsome, rfl, haddress, hcontains⟩⟩
    · cases hnone
    · cases hsame
      cases hsome
      exact ⟨rfl, address, haddress, hcontains⟩
  · rintro ⟨rfl, address, haddress, hcontains⟩
    exact ⟨network, rfl, .inr ⟨ip, address, rfl, rfl, haddress, hcontains⟩⟩

/-- Any other text is refused before anything is sent. -/
theorem refused_reservedAddress (hnetwork : checkNetworkIn view cidr family = .ok network)
    (hne : ip ≠ "") (hout : ¬ network.Covers ip) :
    Refused (reservedAddress view cidr (some ip) family) := by
  cases hreserved : reservedAddress view cidr (some ip) family with
  | error e => exact ⟨e, rfl, local_reservedAddress view cidr (some ip) family e hreserved⟩
  | ok a =>
      obtain ⟨-, hcovers⟩ := (reservedAddress_of_given_iff hnetwork hne).mp hreserved
      exact absurd hcovers hout

/-- Without any bit every address will do, and with all of them only one. -/
example :
    reservedAddress "default" "0.0.0.0/0" (some "255.255.255.255") .v4
        = .ok (.literal "255.255.255.255")
      ∧ reservedAddress "default" "::/0" (some "10.0.0.1") .v6
        = .error (.validation (.addressMismatch "IPv6" "10.0.0.1"))
      ∧ reservedAddress "default" "2001:db8::1/128" (some "2001:DB8:0::1") .v6
        = .ok (.literal "2001:DB8:0::1")
      ∧ reservedAddress "default" "10.0.0.5/32" (some "10.0.0.4") .v4
        = .error (.validation (.addressOutside "10.0.0.4" "10.0.0.5/32")) :=
  ⟨rfl, rfl, rfl, rfl⟩

end Address

/-! ## Requests -/

/-- Creating a reservation of a family. -/
inductive Creation.Reserves (view cidr : String) (ip : Option String) : Family → Creation → Prop
  | v4 (mac name : Option String) : Reserves view cidr ip .v4 (.fixedAddress view cidr ip mac name)
  | v6 (duid : String) (name : Option String) :
    Reserves view cidr ip .v6 (.ipv6FixedAddress view cidr ip duid name)

/-- In the body of a request one network is read, and one address or a text in its place. -/
def Request.Reserves (q : Request) (cidr text : String) (family : Family) : Prop :=
  ∃ fields, q.Bears fields
    ∧ (∀ value, ("network", value) ∈ fields ↔ value = .string cidr)
    ∧ ∀ (other : Family) (value : Json),
        (other.addressKey, value) ∈ fields ↔ other = family ∧ value = .string text

namespace Creation.Reserves

variable {σ : Type} {p : Provisioner σ} {w : World σ} {view cidr : String} {ip : Option String}
  {family : Family} {c : Creation} {attributes : Attributes} {q : Request}

/-- A reservation that is made has passed the check of its address. -/
theorem exists_reservedAddress (hc : c.Reserves view cidr ip family) {draft : Object}
    (h : c.draft = .ok draft) : ∃ a, reservedAddress view cidr ip family = .ok a := by
  cases hc with
  | v4 mac name | v6 duid name =>
      obtain ⟨a, ha, -⟩ := bind_eq_ok.mp h
      exact ⟨a, ha⟩

/-- The reference of a reservation shows what the server chose, so that nothing is read. -/
theorem wanted_ne_unseen (hc : c.Reserves view cidr ip family) : c.wanted ≠ .unseen := by
  cases hc with
  | v4 mac name | v6 duid name =>
      rw [Creation.wanted]
      cases (given ip).isNone with
      | true => decide
      | false => decide

theorem creationRequest (p : Provisioner σ) (hc : c.Reserves view cidr ip family)
    (attributes : Attributes) :
    (p.creationRequest c attributes).Reserves cidr (reservationText view cidr ip) family := by
  refine ⟨_, (p.posts_creationRequest c attributes).bears, ?_, ?_⟩
  · intro value
    cases hc with
    | v4 mac name | v6 duid name =>
      cases name <;>
        simp [Creation.members, Creation.written, givenText, givenMember]
  · intro other value
    cases hc with
    | v4 mac name | v6 duid name =>
      cases name <;> cases other <;>
        simp [Creation.members, Creation.written, givenText, givenMember, Family.addressKey]

/-- **What the request for a reservation bears**: the network, and an address in it that was asked
for or the text for the next free one. -/
theorem reserves (hc : c.Reserves view cidr ip family)
    (h : q ∈ (p.create c attributes).newRequests w) :
    ∃ network text, checkCidr cidr (some family) = .ok network
      ∧ q.Reserves cidr text family
      ∧ ((given ip = none ∧ text = nextAddressText view cidr)
        ∨ (ip = some text ∧ network.Covers text)) := by
  obtain ⟨⟨draft, hdraft⟩, rfl | ⟨hunseen, -⟩⟩ := Provisioner.of_mem_newRequests_create h
  · obtain ⟨a, ha⟩ := hc.exists_reservedAddress hdraft
    obtain ⟨network, hnetwork, hvalue⟩ := reservedAddress_eq_ok_iff.mp ha
    have hcidr := checkCidr_of_checkNetworkIn hnetwork
    refine ⟨network, _, hcidr, hc.creationRequest p attributes, ?_⟩
    unfold reservationText
    rcases hvalue with ⟨hgiven, -⟩ | ⟨text, address, hgiven, -, haddress, hcontains⟩
    · rw [hgiven]
      exact .inl ⟨rfl, rfl⟩
    · rw [hgiven]
      have hip : ip = some text := (Option.filter_eq_some_iff.mp hgiven).1
      rw [← family_of_checkCidr hcidr] at haddress
      exact .inr ⟨hip, Cidr.covers_iff.mpr ⟨address, haddress, hcontains⟩⟩
  · exact absurd hunseen hc.wanted_ne_unseen

/-- With arguments that pass, one request is sent in an open session. -/
theorem exists_request (hc : c.Reserves view cidr ip family) (hopen : w.phase ≠ .closed)
    (hchecks : checkAll c.arguments = .ok ()) :
    ∃ q, (p.create c attributes).newRequests w = [q] := by
  obtain ⟨follow, hsent, hfollow⟩ := p.newRequests_create_of_passed attributes hchecks hopen
  rw [hfollow hc.wanted_ne_unseen] at hsent
  exact ⟨_, hsent⟩

end Creation.Reserves

/-! ## The theorem -/

/-- **Reservations lie in their network.** In a named view, with a network of a family and any
length up to the width of that family, an address that is asked for is taken as it is spelled when
it is one of the family whose first bits are those of the network, and refused otherwise. Without an
address, or with an empty one, the next free one is asked for. So a request for a reservation never
bears an address outside the network that it bears; one is sent when the arguments pass. -/
theorem Provisioner.reservations_in_network {σ : Type} (p : Provisioner σ) (w : World σ)
    (view cidr : String) (family : Family) :
    (Text.isBlankText view = false → ∀ network, checkCidr cidr (some family) = .ok network →
      network.address.family = family ∧ network.length ≤ family.width
      ∧ (∀ ip, ip ≠ "" →
        let inside := ∃ a, Address.parse? ip = some a ∧ a.family = family
          ∧ ∀ i < network.length, a.bits.getMsbD i = network.address.bits.getMsbD i
        (reservedAddress view cidr (some ip) family = .ok (.literal ip) ↔ inside)
        ∧ (¬ inside → ∃ e, reservedAddress view cidr (some ip) family = .error e
          ∧ e.isValidation = true))
      ∧ ∀ ip, ip = none ∨ ip = some "" →
        reservedAddress view cidr ip family = .ok (.nextAvailable cidr view))
    ∧ ∀ ip c attributes, c.Reserves view cidr ip family →
      (∀ q ∈ (p.create c attributes).newRequests w,
        ∃ network text, checkCidr cidr (some family) = .ok network
          ∧ q.Reserves cidr text family
          ∧ ((given ip = none ∧ text = "func:nextavailableip:" ++ cidr ++ "," ++ view)
            ∨ (ip = some text ∧ network.Covers text)))
      ∧ (w.phase ≠ .closed → checkAll c.arguments = .ok () →
        ∃ q, (p.create c attributes).newRequests w = [q]) := by
  constructor
  · intro hview network hcidr
    have hnetwork : checkNetworkIn view cidr family = .ok network := by
      unfold checkNetworkIn
      rw [require_of_nonblank "network view" hview]
      exact hcidr
    have hfamily : network.address.family = family := family_of_checkCidr hcidr
    have hlength : network.length ≤ network.address.family.width := by
      obtain ⟨⟨_, _, -, -, hbound, -⟩, -, -⟩ := checkCidr_eq_ok_iff.mp hcidr
      exact hbound
    refine ⟨hfamily, hfamily ▸ hlength, fun ip hne => ?_, fun ip hip => ?_⟩
    · intro inside
      have hcovers : network.Covers ip ↔ inside := by
        subst hfamily
        exact Iff.rfl
      rw [← hcovers, reservedAddress_of_given_iff hnetwork hne, and_iff_right rfl]
      exact ⟨Iff.rfl, refused_reservedAddress hnetwork hne⟩
    · have hgiven : given ip = none := by rcases hip with rfl | rfl <;> rfl
      exact reservedAddress_eq_ok_iff.mpr ⟨network, hnetwork, .inl ⟨hgiven, rfl⟩⟩
  · intro ip c attributes hc
    exact ⟨fun q => hc.reserves, hc.exists_request⟩

end GridClient
