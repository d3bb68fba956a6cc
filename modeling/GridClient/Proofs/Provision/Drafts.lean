import GridClient.Proofs.Address.Alphabet
import GridClient.Proofs.Provision.Arguments
import GridClient.Proofs.Schema.Sendable

/-!
# `GridClient.Proofs.Provision.Drafts` — drafts and patterns of checked arguments

A draft or a pattern makes the checks of its arguments, in order, before there is an object; and the
object has values that may be sent, because of what has been checked.

## Contents
- `Vets.networkIn`, `Vets.reserved`, `Vets.recorded`: the checks that several operations share.
- `Creation.vets_draft`, `Lookup.vets_pattern`, `Update.vets_draft`: each operation.
-/

namespace GridClient

/-! ## Shared checks -/

namespace Vets

theorem required (field value : String) :
    Vets [.required field value] (fun _ => Text.isBlankText value = false)
      (require field value) := by
  refine (check (.required field value)).mono fun _ hpassed => ?_
  cases hblank : Text.isBlankText value with
  | false => rfl
  | true =>
      have hrefused := require_of_blank field hblank
      rw [show require field value = .ok () from hpassed] at hrefused
      cases hrefused

theorem networkIn (view cidr : String) (family : Family) :
    Vets (Argument.networkIn view cidr family)
      (fun network => checkCidr cidr (some family) = .ok network
        ∧ Text.isBlankText view = false) (checkNetworkIn view cidr family) := by
  refine (required "network view" view).bind fun _ hview => ?_
  exact (of_check (.network cidr family) rfl).mono fun network hcidr => ⟨hcidr, hview⟩

/-- A network can give one of a length. -/
theorem subnet (view cidr : String) (length : UInt8) (family : Family) :
    Vets (Argument.networkIn view cidr family ++ [.length length family])
      (fun _ => ∃ network, checkCidr cidr (some family) = .ok network
        ∧ Text.isBlankText view = false ∧ checkLength length family = .ok ())
      (checkSubnet view cidr length family) := by
  refine (networkIn view cidr family).bind fun network ⟨hcidr, hview⟩ => ?_
  exact (check (.length length family)).mono fun _ hlength => ⟨network, hcidr, hview, hlength⟩

/-- A check on an argument that may be missing. -/
theorem optional {α : Type} {check : String → Checked α} {argument : String → Argument}
    (hcheck : ∀ s, (argument s).check = (check s).map fun _ => ()) (value : Option String) :
    Vets (value.toList.map argument) (fun _ => ∀ s, value = some s → ∃ a, check s = .ok a)
      (checkGiven check value) := by
  cases value with
  | none => exact ok nofun
  | some s =>
      have hsame : (argument s).check = checkGiven check (some s) := hcheck s
      rw [← hsame]
      refine (Vets.check (argument s)).mono fun _ hpassed t ht => ?_
      cases ht
      rw [hcheck] at hpassed
      obtain ⟨a, ha, -⟩ := bind_eq_ok.mp hpassed
      exact ⟨a, ha⟩

/-- **The address of a reservation** has the form of one, whether it is given or left to the
server. -/
theorem reserved (view cidr : String) (ip : Option String) (family : Family) :
    Vets (Argument.reserved view cidr ip family)
      (fun value => AddressText family value.text
        ∧ ∃ network, checkCidr cidr (some family) = .ok network)
      (reservedAddress view cidr ip family) := by
  refine (networkIn view cidr family).bind fun network ⟨hcidr, hview⟩ => ?_
  cases hgiven : given ip with
  | none => exact ok ⟨.nextAvailable hcidr hview, network, hcidr⟩
  | some ip =>
      refine (of_check (.address ip family) rfl).bind fun address haddress => ?_
      refine (of_check (.addressIn ip cidr family) ?_).mono fun value hvalue => ?_
      · rw [Argument.check_addressIn hcidr haddress]
        show _ = Except.map _ (if network.contains address then _ else _)
        split <;> rfl
      · split at hvalue
        · cases hvalue
          exact ⟨.literal haddress, network, hcidr⟩
        · cases hvalue

/-- **The address of a record** has the form of one. -/
theorem recorded (value : AddressValue) (family : Family) :
    Vets (Argument.recorded value family) (fun _ => AddressText family value.text)
      (checkAddressValue value family) := by
  cases value with
  | literal text =>
      refine (check (.address text family)).mono fun _ hpassed => ?_
      obtain ⟨address, haddress, -⟩ := bind_eq_ok.mp hpassed
      exact .literal haddress
  | nextAvailable cidr view =>
      exact (networkIn view cidr family).map fun network ⟨hcidr, hview⟩ =>
        .nextAvailable hcidr hview

end Vets

/-! ## Objects put together from checked arguments -/

namespace Object

variable {family : Family} {o : Object}

/-- A field that has no form of its own takes any value. -/
theorem Holds.withTtl (h : o.Holds family) (ttl : Option UInt32) :
    (o.withTtl ttl).Holds family :=
  (h.set (f := .useTtl) fun _ _ => trivial).set (f := .ttl) fun _ _ => trivial

theorem holds_recordIn (schema : Schema) (view : String) : (recordIn schema view).Holds family :=
  (holds_of_none rfl).put (f := .view) trivial

theorem holds_networkIn {schema : Schema} {view : String} {network : NetworkValue}
    {comment : Option String} (h : NetworkText family network.text) :
    (networkIn schema view network family comment).Holds family :=
  (((holds_of_none rfl).put (f := .networkView) trivial).put (f := .network) h).set
    (f := .comment) fun _ _ => trivial

/-- A network goes to the collection of the family that its text shows. -/
theorem sendable_networkIn {schema : Schema} (hschema : schema.hasFamily = true) {view : String}
    {network : NetworkValue} {comment : Option String} (h : NetworkText family network.text)
    (hv6 : network.isV6 = family.isV6) :
    (networkIn schema view network family comment).Sendable := by
  have hfamily : (networkIn schema view network family comment).collectionFamily = family := by
    rw [collectionFamily_eq]
    show Family.ofIpv6 (schema == .ipv6FixedAddress || schema.hasFamily && network.isV6) = family
    rw [hschema, hv6]
    -- of the kinds with a family none is that of reservations of version 6
    have hkind : (schema == .ipv6FixedAddress) = false := by
      cases schema <;> first | rfl | cases hschema
    rw [hkind]
    cases family <;> rfl
  refine ⟨?_, rfl⟩
  rw [hfamily]
  exact holds_networkIn h

/-- An object of a kind for one family goes to the collection of that family. -/
theorem sendable_of_schema (hschema : o.schema.hasFamily = false)
    (h : o.Holds (Family.ofIpv6 (o.schema == .ipv6FixedAddress))) (hcriteria : o.criteria = ∅) :
    o.Sendable := by
  have hfamily : o.collectionFamily = Family.ofIpv6 (o.schema == .ipv6FixedAddress) := by
    rw [collectionFamily_eq, hschema, Bool.false_and, Bool.or_false]
  refine ⟨?_, hcriteria⟩
  rw [hfamily]
  exact h

end Object

/-! ## Creations -/

/-- **The draft of a creation** makes the checks of the creation's arguments, and may be sent. -/
theorem Creation.vets_draft (c : Creation) : Vets c.arguments Object.Sendable c.draft := by
  cases c with
  | networkView name comment =>
      refine (Vets.required "network view name" name).bind_pure fun _ _ => ?_
      exact Object.sendable_of_schema rfl
        (((Object.holds_of_none rfl).put (f := .name) trivial).set (f := .comment)
          fun _ _ => trivial) rfl
  | network view cidr family comment | networkContainer view cidr family comment =>
      refine (Vets.networkIn view cidr family).bind_pure fun _ ⟨hcidr, _⟩ => ?_
      exact Object.sendable_networkIn rfl (.literal hcidr) (has_colon_of_checkCidr hcidr)
  | nextNetwork view cidr length family comment
  | nextNetworkContainer view cidr length family comment =>
      refine (Vets.subnet view cidr length family).bind_pure
        fun _ ⟨_, hcidr, hview, hlength⟩ => ?_
      exact Object.sendable_networkIn rfl (.nextAvailable hcidr hview hlength)
        (has_colon_of_checkCidr hcidr)
  | fixedAddress view cidr ip hardware name =>
      refine (Vets.reserved view cidr ip .v4).bind fun address ⟨haddress, _, hcidr⟩ => ?_
      refine (Vets.check (.mac _)).bind_pure fun _ hmac => ?_
      exact Object.sendable_of_schema rfl
        ((((((Object.holds_of_none rfl).put (f := .networkView) trivial).put (f := .parentNetwork)
          (.literal hcidr)).put (f := .ipv4Address) haddress).put (f := .mac) hmac).set (f := .name)
            fun _ _ => trivial) rfl
  | ipv6FixedAddress view cidr ip duid name =>
      refine (Vets.reserved view cidr ip .v6).bind fun address ⟨haddress, _, hcidr⟩ => ?_
      refine (Vets.required "DUID" duid).bind_pure fun _ _ => ?_
      exact Object.sendable_of_schema rfl
        ((((((Object.holds_of_none rfl).put (f := .networkView) trivial).put (f := .parentNetwork)
          (.literal hcidr)).put (f := .ipv6Address) haddress).put (f := .duid) trivial).set
            (f := .name) fun _ _ => trivial) rfl
  | recordA view name address ttl =>
      refine (Vets.required "DNS view" view).bind fun _ _ =>
        (Vets.required "record name" name).bind fun _ _ =>
          (Vets.recorded address .v4).bind_pure fun _ haddress => ?_
      exact Object.sendable_of_schema rfl
        ((((Object.holds_recordIn _ _).put (f := .name) trivial).put (f := .ipv4Address)
          haddress).withTtl ttl) rfl
  | recordAaaa view name address ttl =>
      refine (Vets.required "DNS view" view).bind fun _ _ =>
        (Vets.required "record name" name).bind fun _ _ =>
          (Vets.recorded address .v6).bind_pure fun _ haddress => ?_
      exact Object.sendable_of_schema rfl
        ((((Object.holds_recordIn _ _).put (f := .name) trivial).put (f := .ipv6Address)
          haddress).withTtl ttl) rfl
  | recordPtr view pointerName address ttl =>
      refine (Vets.required "DNS view" view).bind fun _ _ =>
        (Vets.required "PTR domain name" pointerName).bind fun _ _ =>
          (Vets.recorded address _).bind_pure fun _ haddress => ?_
      -- the field that takes the address is that of its family
      cases hv6 : address.isV6 with
      | true =>
          rw [hv6] at haddress
          exact Object.sendable_of_schema rfl
            ((((Object.holds_recordIn _ _).put (f := .pointerName) trivial).put (f := .ipv6Address)
              haddress).withTtl ttl) rfl
      | false =>
          rw [hv6] at haddress
          exact Object.sendable_of_schema rfl
            ((((Object.holds_recordIn _ _).put (f := .pointerName) trivial).put (f := .ipv4Address)
              haddress).withTtl ttl) rfl
  | recordCname view canonical aliasName ttl =>
      refine (Vets.required "DNS view" view).bind fun _ _ =>
        (Vets.required "canonical name" canonical).bind fun _ _ =>
          (Vets.required "alias" aliasName).bind_pure fun _ _ => ?_
      exact Object.sendable_of_schema rfl
        ((((Object.holds_recordIn _ _).put (f := .name) trivial).put (f := .canonical)
          trivial).withTtl ttl) rfl
  | recordMx view name mailExchanger preference ttl =>
      refine (Vets.required "DNS view" view).bind fun _ _ =>
        (Vets.required "record name" name).bind fun _ _ =>
          (Vets.required "mail exchanger" mailExchanger).bind_pure fun _ _ => ?_
      exact Object.sendable_of_schema rfl
        (((((Object.holds_recordIn _ _).put (f := .name) trivial).put (f := .mailExchanger)
          trivial).put (f := .preference) trivial).withTtl ttl) rfl
  | recordTxt view name text ttl =>
      refine (Vets.required "DNS view" view).bind fun _ _ =>
        (Vets.required "record name" name).bind fun _ _ =>
          (Vets.required "text" text).bind_pure fun _ _ => ?_
      exact Object.sendable_of_schema rfl
        ((((Object.holds_recordIn _ _).put (f := .name) trivial).put (f := .text)
          trivial).withTtl ttl) rfl
  | zoneAuth view fqdn =>
      refine (Vets.required "DNS view" view).bind fun _ _ =>
        (Vets.required "zone FQDN" fqdn).bind_pure fun _ _ => ?_
      exact Object.sendable_of_schema rfl
        ((Object.holds_recordIn _ _).put (f := .fqdn) trivial) rfl
  | attributeDefinition definition =>
      have hchecks : Creation.draft (.attributeDefinition definition)
          = require "EA definition name" (definition.name.getD "") >>= fun _ =>
            (Argument.definitionType definition).check >>= fun _ => pure definition.object := by
        refine congrArg (require _ _ >>= ·) (funext fun _ => ?_)
        unfold Argument.check
        show (if _ then _ else _) = (if _ then _ else _) >>= _
        split <;> rfl
      rw [hchecks]
      refine (Vets.required "EA definition name" _).bind fun _ _ =>
        (Vets.check (.definitionType definition)).bind_pure fun _ _ => ?_
      exact Object.sendable_of_schema rfl
        ((((((Object.holds_of_none rfl).set (f := .name) fun _ _ => trivial).set (f := .valueType)
          fun _ _ => trivial).set (f := .comment) fun _ _ => trivial).set (f := .flags)
            fun _ _ => trivial).set (f := .listValues) fun _ _ => trivial) rfl

/-! ## Look-ups -/

/-- **The pattern of a look-up** makes the checks of the look-up's arguments, and may be sent. -/
theorem Lookup.vets_pattern (l : Lookup) : Vets l.arguments Object.Sendable l.pattern := by
  cases l with
  | networkView name =>
      refine (Vets.required "network view name" name).bind_pure fun _ _ => ?_
      exact Object.sendable_of_schema rfl ((Object.holds_of_none rfl).put (f := .name) trivial) rfl
  | network view cidr family | networkContainer view cidr family =>
      refine (Vets.networkIn view cidr family).bind_pure fun _ ⟨hcidr, _⟩ => ?_
      exact Object.sendable_networkIn rfl (.literal hcidr) (has_colon_of_checkCidr hcidr)
  | fixedAddress view ip hardware =>
      have hchecks : pattern (.fixedAddress view ip hardware)
          = require "network view" view >>= fun _ =>
            (Argument.eitherGiven ip hardware).check >>= fun _ =>
              checkGiven (checkAddress · .v4) (given ip) >>= fun _ =>
                checkGiven checkMac (given hardware) >>= fun _ =>
                  pure (((({ schema := .fixedAddress } : Object).put .networkView view).set
                    .ipv4Address ((given ip).map AddressValue.literal)).set .mac
                      (given hardware)) := by
        refine congrArg (require _ _ >>= ·) (funext fun _ => ?_)
        unfold Argument.check
        show (if _ then _ else _) = (if _ then _ else _) >>= _
        split <;> rfl
      rw [hchecks]
      refine (Vets.required "network view" view).bind fun _ _ =>
        (Vets.check (.eitherGiven ip hardware)).bind fun _ _ =>
          (Vets.optional (fun s => rfl) (given ip)).bind fun _ hip =>
            (Vets.optional (fun s => ?_) (given hardware)).bind_pure fun _ hmac => ?_
      · show checkMac s = _
        cases checkMac s <;> rfl
      · refine Object.sendable_of_schema rfl ((((Object.holds_of_none rfl).put (f := .networkView)
          trivial).set (f := .ipv4Address) fun v hv => ?_).set (f := .mac) fun v hv => ?_) rfl
        · obtain ⟨s, hs, rfl⟩ := Option.map_eq_some_iff.mp hv
          obtain ⟨address, haddress⟩ := hip s hs
          exact .literal haddress
        · exact (hmac v hv).choose_spec
  | ipv6FixedAddress view ip =>
      refine (Vets.required "network view" view).bind fun _ _ =>
        (Vets.of_check (.address ip .v6) rfl).bind_pure fun _ haddress => ?_
      exact Object.sendable_of_schema rfl
        (((Object.holds_of_none rfl).put (f := .networkView) trivial).put (f := .ipv6Address)
          (.literal haddress)) rfl
  | recordA view name ip =>
      refine (Vets.check (.requiredAll _ _)).bind fun _ _ =>
        (Vets.of_check (.address ip .v4) rfl).bind_pure fun _ haddress => ?_
      exact Object.sendable_of_schema rfl
        (((Object.holds_recordIn _ _).put (f := .name) trivial).put (f := .ipv4Address)
          (.literal haddress)) rfl
  | recordAaaa view name ip =>
      refine (Vets.check (.requiredAll _ _)).bind fun _ _ =>
        (Vets.of_check (.address ip .v6) rfl).bind_pure fun _ haddress => ?_
      exact Object.sendable_of_schema rfl
        (((Object.holds_recordIn _ _).put (f := .name) trivial).put (f := .ipv6Address)
          (.literal haddress)) rfl
  | recordPtr view pointerName ip =>
      refine (Vets.check (.requiredAll _ _)).bind fun _ _ =>
        (Vets.of_check (.address ip _) rfl).bind_pure fun _ haddress => ?_
      -- the field that takes the address is that of its family
      cases hv6 : Text.has ip ':' with
      | true =>
          rw [hv6] at haddress
          exact Object.sendable_of_schema rfl
            (((Object.holds_recordIn _ _).put (f := .pointerName) trivial).put (f := .ipv6Address)
              (.literal haddress)) rfl
      | false =>
          rw [hv6] at haddress
          exact Object.sendable_of_schema rfl
            (((Object.holds_recordIn _ _).put (f := .pointerName) trivial).put (f := .ipv4Address)
              (.literal haddress)) rfl
  | recordCname view canonical aliasName =>
      refine (Vets.check (.requiredAll _ _)).bind_pure fun _ _ => ?_
      exact Object.sendable_of_schema rfl
        (((Object.holds_recordIn _ _).put (f := .name) trivial).put (f := .canonical) trivial) rfl
  | recordMx view name mailExchanger =>
      refine (Vets.check (.requiredAll _ _)).bind_pure fun _ _ => ?_
      exact Object.sendable_of_schema rfl
        (((Object.holds_recordIn _ _).put (f := .name) trivial).put (f := .mailExchanger)
          trivial) rfl
  | recordTxt view name =>
      refine (Vets.check (.requiredAll _ _)).bind_pure fun _ _ => ?_
      exact Object.sendable_of_schema rfl
        ((Object.holds_recordIn _ _).put (f := .name) trivial) rfl
  | zoneAuth view fqdn =>
      refine (Vets.required "DNS view" view).bind fun _ _ =>
        (Vets.required "zone FQDN" fqdn).bind_pure fun _ _ => ?_
      exact Object.sendable_of_schema rfl
        ((Object.holds_recordIn _ _).put (f := .fqdn) trivial) rfl
  | attributeDefinition name =>
      refine (Vets.required "EA definition name" name).bind_pure fun _ _ => ?_
      exact Object.sendable_of_schema rfl ((Object.holds_of_none rfl).put (f := .name) trivial) rfl
  | grid => exact .ok (Object.sendable_of_schema rfl (Object.holds_of_none rfl) rfl)

/-! ## Updates -/

/-- **The draft of an update** makes the checks of the update's arguments. Its values have their
forms in every collection, since it has no network. -/
theorem Update.vets_draft (u : Update) :
    Vets u.arguments (fun draft => ∀ family, draft.Holds family) u.draft := by
  cases u with
  | networkView comment | network comment =>
      exact .ok fun family => (Object.holds_of_none rfl).set (f := .comment) fun _ _ => trivial
  | fixedAddress hardware name =>
      refine (Vets.optional (fun s => ?_) hardware).bind_pure fun _ hmac family => ?_
      · show checkMac s = _
        cases checkMac s <;> rfl
      · exact ((Object.holds_of_none rfl).set (f := .mac) fun v hv =>
          (hmac v hv).choose_spec).set (f := .name) fun _ _ => trivial
  | recordA name ip ttl | recordAaaa name ip ttl =>
      refine (Vets.optional (fun s => rfl) ip).bind_pure fun _ hip family => ?_
      refine (((Object.holds_of_none rfl).set fun v hv => ?_).set (f := .name)
        fun _ _ => trivial).withTtl ttl
      obtain ⟨s, hs, rfl⟩ := Option.map_eq_some_iff.mp hv
      obtain ⟨address, haddress⟩ := hip s hs
      exact .literal haddress
  | recordPtr pointerName ttl =>
      exact .ok fun family => ((Object.holds_of_none rfl).set (f := .pointerName)
        fun _ _ => trivial).withTtl ttl
  | recordCname canonical aliasName ttl =>
      exact .ok fun family => (((Object.holds_of_none rfl).set (f := .canonical)
        fun _ _ => trivial).set (f := .name) fun _ _ => trivial).withTtl ttl
  | recordMx mailExchanger preference ttl =>
      exact .ok fun family => (((Object.holds_of_none rfl).set (f := .mailExchanger)
        fun _ _ => trivial).set (f := .preference) fun _ _ => trivial).withTtl ttl
  | recordTxt text ttl =>
      exact .ok fun family => ((Object.holds_of_none rfl).set (f := .text)
        fun _ _ => trivial).withTtl ttl

end GridClient
