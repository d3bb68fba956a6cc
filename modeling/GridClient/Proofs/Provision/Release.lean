import GridClient.Proofs.Address.Alphabet
import GridClient.Proofs.Address.Hardware
import GridClient.Proofs.Provision.Deletion
import GridClient.Proofs.Provision.Drafts
import GridClient.Proofs.Provision.Lookup
import GridClient.Provision.Release

/-!
# `GridClient.Proofs.Provision.Release` — whose reservation an address is

An address is given back by deleting its reservation. Where a hardware address is asked for, it is
compared with that of the reservation as a text, without regard to case. So another case of the
digits makes no difference, but other separators do, though they are just as good a spelling of the
same octets.

## Contents
- `Lookup.nonblank_of_pattern`: a reservation is looked up by an address that is there.
- `Provisioner.deleteFor`, `runIn_release_of_found`: the run of a release whose look-up has found a
  reservation.
- `Provisioner.release_heeds_spelling`: what it sends, by the two spellings.
- `Provisioner.refused_for_separators`: the same octets in two spellings, of which one is refused.
-/

namespace GridClient

variable {σ : Type}

/-- An argument list that a computation has come through has passed. -/
theorem Vets.checkAll_of_eq_ok {α : Type} {arguments : List Argument} {Q : α → Prop}
    {x : Checked α} (hx : Vets arguments Q x) {a : α} (ha : x = .ok a) :
    checkAll arguments = .ok () := by
  cases hchecks : checkAll arguments with
  | error e =>
      rw [hx.refused e hchecks] at ha
      cases ha
  | ok => rfl

/-- A reservation that is looked up by an address alone is looked up by one that is not blank. -/
theorem Lookup.nonblank_of_pattern {view ip : String} {pattern : Object}
    (h : (fixedAddress view (some ip) none).pattern = .ok pattern) :
    Text.isBlankText ip = false := by
  have hpassed : checkAll (fixedAddress view (some ip) none).arguments = .ok () :=
    (vets_pattern _).checkAll_of_eq_ok h
  -- every argument has passed its check, for one that fails would have ended the list
  have hcheck : ∀ argument ∈ (fixedAddress view (some ip) none).arguments,
      argument.check = .ok () := by
    intro argument hmem
    apply Classical.byContradiction
    intro hfails
    obtain ⟨e, he⟩ := exists_checkAll_eq_error hmem hfails
    rw [hpassed] at he
    cases he
  by_cases hempty : ip = ""
  · have heither := hcheck (.eitherGiven (some ip) none) (by simp [arguments])
    rw [hempty] at heither
    cases heither
  · have haddress := hcheck (.address ip .v4) (by simp [arguments, given, hempty])
    obtain ⟨a, ha, -⟩ := map_eq_ok.mp haddress
    exact Address.nonblank_of_parse? (parse?_of_checkAddress ha).1

namespace Provisioner

variable {p : Provisioner σ} {view ip : String} {w : World σ} {reservation : Object}

/-- The hardware address of a reservation, or nothing. -/
def ownerOf (reservation : Object) : String :=
  (reservation.values .mac : Option String).getD ""

/-- What a release does with the reservation that it has found. -/
def deleteFor (p : Provisioner σ) (ip : String) (mac : Option String) (reservation : Object) :
    Session σ String :=
  match given mac with
  | some mac =>
    if isOwner (ownerOf reservation) mac then p.delete .fixedAddress reservation.reference
    else throw (Error.validation (.reservedForOther ip (ownerOf reservation) mac))
  | none => p.delete .fixedAddress reservation.reference

theorem release_eq (p : Provisioner σ) (view ip : String) (mac : Option String) :
    p.release view ip mac
      = Session.lift (require "IP address" ip) >>= fun _ =>
          p.find (.fixedAddress view (some ip) none) >>= p.deleteFor ip mac := rfl

/-- **A release whose look-up has found a reservation** goes on with it in the session that the
look-up leaves. -/
theorem runIn_release_of_found (mac : Option String)
    (hfound : ((p.find (.fixedAddress view (some ip) none)).runIn w).1 = .ok reservation) :
    ∃ pattern, (Lookup.fixedAddress view (some ip) none).pattern = .ok pattern ∧ w.phase ≠ .closed
      ∧ (p.release view ip mac).runIn w
        = (p.deleteFor ip mac reservation).runIn (p.link.after (p.searchRequest pattern) w) := by
  obtain ⟨pattern, hpattern, hopen, hrun⟩ := exists_of_find_eq_ok hfound
  have hip := require_of_nonblank "IP address" (Lookup.nonblank_of_pattern hpattern)
  refine ⟨pattern, hpattern, hopen, ?_⟩
  rw [release_eq, Session.runIn_lift_bind hip, Session.runIn_bind, hrun]

/-- A hardware address that is asked for is compared with the reservation's. -/
theorem deleteFor_some {requested : String} (h : checkMac requested = .ok ()) :
    p.deleteFor ip (some requested) reservation
      = if isOwner (ownerOf reservation) requested then
          p.delete .fixedAddress reservation.reference
        else throw (Error.validation
          (.reservedForOther ip (ownerOf reservation) requested)) := by
  have hne : requested ≠ "" := by
    rintro rfl
    cases h
  have hgiven : given (some requested) = some requested := by simp [given, hne]
  unfold deleteFor
  rw [hgiven]

/-! ## The theorem -/

/-- **A release heeds the spelling of the hardware address.** Of a reservation that its look-up has
found, and which has an accepted hardware address as the one that is asked for is accepted: after
the look-up it sends the request that deletes the reservation exactly if the two have the same
octets and the same separators, in whatever case their digits are. Otherwise the look-up is all that
it sends, and it fails as a local check does. -/
theorem release_heeds_spelling (p : Provisioner σ) {view ip owner requested : String} {w : World σ}
    {reservation : Object}
    (hfound : ((p.find (.fixedAddress view (some ip) none)).runIn w).1 = .ok reservation)
    (hreference : BeginsWithType reservation.reference "fixedaddress")
    (howner : reservation.values .mac = some owner)
    (hmac : checkMac owner = .ok ()) (hrequested : checkMac requested = .ok ()) :
    ∃ pattern, (Lookup.fixedAddress view (some ip) none).pattern = .ok pattern
      ∧ ((p.release view ip (some requested)).newRequests w
            = [p.searchRequest pattern, p.link.endpoint.deletion reservation.reference]
          ↔ Mac.octets? owner = Mac.octets? requested
            ∧ Mac.separators owner = Mac.separators requested)
      ∧ (¬ (Mac.octets? owner = Mac.octets? requested
            ∧ Mac.separators owner = Mac.separators requested) →
          (p.release view ip (some requested)).runIn w
            = (.error (.validation (.reservedForOther ip owner requested)),
                p.link.after (p.searchRequest pattern) w)) := by
  obtain ⟨pattern, hpattern, hopen, hrun⟩ := runIn_release_of_found (some requested) hfound
  have hvalue : ownerOf reservation = owner := by
    unfold ownerOf
    rw [howner]
    rfl
  rw [deleteFor_some hrequested, hvalue] at hrun
  rw [← Mac.sameIgnoringCase_iff_octets hmac hrequested]
  by_cases hsame : Text.sameIgnoringCase owner requested = true
  · -- the reservation is the requested one, so it is deleted by a reference of its own kind
    have hown : ∃ name ∈ Schema.fixedAddress.objectTypes,
        objectTypeOf? reservation.reference = some name := by
      have hmem : "fixedaddress" ∈ Schema.fixedAddress.objectTypes := by decide
      exact ⟨_, hmem, (Schema.objectTypeOf?_eq_some_iff_begins hmem).mpr hreference⟩
    have hstill : (p.link.after (p.searchRequest pattern) w).phase ≠ .closed := hopen
    rw [if_pos (show isOwner owner requested = true from hsame),
      runIn_delete_of_ownKind p hown hstill] at hrun
    refine ⟨pattern, hpattern, ⟨fun _ => hsame, fun _ => ?_⟩, fun hother => absurd hsame hother⟩
    apply Session.newRequests_eq
    rw [hrun]
    simp
  · rw [if_neg (show ¬ isOwner owner requested = true from hsame), Session.runIn_throw] at hrun
    refine ⟨pattern, hpattern, ⟨fun hsent => ?_, fun h => absurd h hsame⟩, fun _ => hrun⟩
    -- nothing follows the look-up
    have hlookup : (p.release view ip (some requested)).newRequests w
        = [p.searchRequest pattern] := by
      apply Session.newRequests_eq
      rw [hrun]
      rfl
    rw [hlookup] at hsent
    cases hsent

set_option maxRecDepth 4000 in
/-- A reservation is given up for its hardware address in another case. -/
theorem release_heeds_spelling_of_case :
    let p : Provisioner (List (Checked Response)) := { link := .scripted }
    let w := World.start [.ok ⟨200, Text.Utf8.encode
      "[\x7b\"_ref\":\"fixedaddress/ZG5z:10.0.0.5/lab\",\"mac\":\"AA-bb:CC:dd:EE:0f\"\x7d]"⟩]
    Mac.octets? "AA-bb:CC:dd:EE:0f" = Mac.octets? "aa-BB:cc:dd:ee:0F"
    ∧ ∃ pattern, (Lookup.fixedAddress "lab" (some "10.0.0.5") none).pattern = .ok pattern
      ∧ (p.release "lab" "10.0.0.5" (some "aa-BB:cc:dd:ee:0F")).newRequests w
        = [p.searchRequest pattern, p.link.endpoint.deletion "fixedaddress/ZG5z:10.0.0.5/lab"] := by
  intro p w
  have hbegins : BeginsWithType "fixedaddress/ZG5z:10.0.0.5/lab" "fixedaddress" :=
    ⟨by decide, "ZG5z:10.0.0.5/lab", by decide⟩
  have hfound : ((p.find (.fixedAddress "lab" (some "10.0.0.5") none)).runIn w).1 = .ok _ := rfl
  have hmac : checkMac "AA-bb:CC:dd:EE:0f" = .ok () := by decide
  have hrequested : checkMac "aa-BB:cc:dd:ee:0F" = .ok () := by decide
  obtain ⟨pattern, hpattern, hsent, -⟩ :=
    p.release_heeds_spelling hfound hbegins rfl hmac hrequested
  exact ⟨by decide, pattern, hpattern, hsent.mpr ⟨by decide, by decide⟩⟩

set_option maxRecDepth 4000 in
/-- The same octets with other separators are taken for another hardware address: the reservation is
found and left alone. -/
theorem refused_for_separators :
    let p : Provisioner (List (Checked Response)) := { link := .scripted }
    let w := World.start
      [.ok ⟨200, Text.Utf8.encode
        "[\x7b\"_ref\":\"fixedaddress/ZG5z:10.0.0.5/lab\",\"mac\":\"aa-bb-cc-dd-ee-ff\"\x7d]"⟩,
      .ok ⟨200, Text.Utf8.encode "\"fixedaddress/ZG5z:10.0.0.5/lab\""⟩]
    checkMac "aa-bb-cc-dd-ee-ff" = .ok () ∧ checkMac "aa:bb:cc:dd:ee:ff" = .ok ()
    ∧ Mac.octets? "aa-bb-cc-dd-ee-ff" = Mac.octets? "aa:bb:cc:dd:ee:ff"
    ∧ (∃ reservation,
        ((p.find (.fixedAddress "lab" (some "10.0.0.5") none)).runIn w).1 = .ok reservation
        ∧ BeginsWithType reservation.reference "fixedaddress"
        ∧ reservation.values .mac = some "aa-bb-cc-dd-ee-ff")
    ∧ ((p.release "lab" "10.0.0.5" (some "aa:bb:cc:dd:ee:ff")).runIn w).1
        = .error (.validation
          (.reservedForOther "10.0.0.5" "aa-bb-cc-dd-ee-ff" "aa:bb:cc:dd:ee:ff"))
    ∧ ((p.release "lab" "10.0.0.5" (some "aa:bb:cc:dd:ee:ff")).newRequests w).map Request.method
        = [.get] := by
  intro p w
  have hbegins : BeginsWithType "fixedaddress/ZG5z:10.0.0.5/lab" "fixedaddress" :=
    ⟨by decide, "ZG5z:10.0.0.5/lab", by decide⟩
  refine ⟨by decide, by decide, by decide, ⟨_, rfl, hbegins, rfl⟩, ?_, ?_⟩
  · rfl
  · rfl

end Provisioner
end GridClient
