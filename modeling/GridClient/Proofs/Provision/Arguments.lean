import GridClient.Proofs.Checked
import GridClient.Provision.Task

/-!
# `GridClient.Proofs.Provision.Arguments` — what every operation checks of its arguments

An operation begins with a fixed list of checks, which its arguments alone determine. The first one
that fails ends it. When all have passed it goes on with what they have made of the arguments.

## Contents
- `Argument`, `Argument.check`: one check; `checkAll`: a list of them, in order.
- `Creation.arguments`, `Lookup.arguments`, `Update.arguments`, `Task.arguments`: the checks of each
  operation.
- `reservedAddress_eq_ok_iff`: what becomes of the address of a reservation.
- `Local`, `local_checkAll`: they fail as local checks do.
- `Vets`: a computation makes the checks of a list, with its rules.
-/

namespace GridClient

variable {α β : Type}

/-! ## Checks -/

/-- One check of an argument. -/
inductive Argument
  /-- A name, a view or a reference that must not be blank. -/
  | required (field value : String)
  /-- The words of a look-up, none of which may be blank. -/
  | requiredAll (what : String) (fields : List (String × String))
  | network (cidr : String) (family : Family)
  | address (text : String) (family : Family)
  /-- An address that has to lie in a network. -/
  | addressIn (text cidr : String) (family : Family)
  | mac (text : String)
  | length (length : UInt8) (family : Family)
  /-- What a reservation is looked up by; one of the two has to be there. -/
  | eitherGiven (ip mac : Option String)
  /-- A definition that has to have a type. -/
  | definitionType (definition : AttributeDefinition)
  /-- A reference that has to be of a type of a kind. -/
  | ofKind (reference : String) (schema : Schema)

/-- The outcome of a check. -/
def Argument.check : Argument → Checked Unit
  | required field value => require field value
  | requiredAll what fields => requireAll what fields
  | network cidr family => (checkCidr cidr (some family)).map fun _ => ()
  | address text family => (checkAddress text family).map fun _ => ()
  | addressIn text cidr family => do
    let network ← checkCidr cidr (some family)
    let address ← checkAddress text family
    if network.contains address then .ok () else refuse (.addressOutside text cidr)
  | mac text => checkMac text
  | length n family => checkLength n family
  | eitherGiven ip hardware =>
    if (given ip).isNone && (given hardware).isNone then refuse .reservationUnspecified else .ok ()
  | definitionType definition =>
    if definition.valueType.getD "" = "" then
      refuse (.definitionWithoutType (definition.name.getD ""))
    else .ok ()
  | ofKind reference schema =>
    if (objectTypeOf? reference).any schema.objectTypes.contains then .ok ()
    else refuse (.wrongType reference schema.objectType)

/-- Of a network and an address that are known it is decided whether the one holds the other. -/
theorem Argument.check_addressIn {text cidr : String} {family : Family} {network : Cidr}
    {address : Address} (hcidr : checkCidr cidr (some family) = .ok network)
    (haddress : checkAddress text family = .ok address) :
    (addressIn text cidr family).check
      = if network.contains address then .ok () else refuse (.addressOutside text cidr) := by
  simp only [check, hcidr, haddress, bind, Except.bind]

/-- Checks made in order; the first that fails decides. -/
def checkAll : List Argument → Checked Unit
  | [] => .ok ()
  | argument :: rest => argument.check >>= fun _ => checkAll rest

/-! ## The checks of operations -/

/-- A network of a family, in a view. -/
def Argument.networkIn (view cidr : String) (family : Family) : List Argument :=
  [.required "network view" view, .network cidr family]

/-- The address of a reservation, which may be left to the server. -/
def Argument.reserved (view cidr : String) (ip : Option String) (family : Family) :
    List Argument :=
  networkIn view cidr family
    ++ (given ip).toList.flatMap fun ip => [.address ip family, .addressIn ip cidr family]

/-- The address of a record. -/
def Argument.recorded (value : AddressValue) (family : Family) : List Argument :=
  match value with
  | .literal text => [.address text family]
  | .nextAvailable cidr view => networkIn view cidr family

def Creation.arguments : Creation → List Argument
  | networkView name _ => [.required "network view name" name]
  | network view cidr family _ | networkContainer view cidr family _ =>
    Argument.networkIn view cidr family
  | nextNetwork view cidr length family _ | nextNetworkContainer view cidr length family _ =>
    Argument.networkIn view cidr family ++ [.length length family]
  | fixedAddress view cidr ip mac _ =>
    Argument.reserved view cidr ip .v4 ++ [.mac ((given mac).getD Mac.zero)]
  | ipv6FixedAddress view cidr ip duid _ =>
    Argument.reserved view cidr ip .v6 ++ [.required "DUID" duid]
  | recordA view name address _ =>
    [.required "DNS view" view, .required "record name" name] ++ Argument.recorded address .v4
  | recordAaaa view name address _ =>
    [.required "DNS view" view, .required "record name" name] ++ Argument.recorded address .v6
  | recordPtr view pointerName address _ =>
    [.required "DNS view" view, .required "PTR domain name" pointerName]
      ++ Argument.recorded address (Family.ofIpv6 address.isV6)
  | recordCname view canonical aliasName _ =>
    [.required "DNS view" view, .required "canonical name" canonical, .required "alias" aliasName]
  | recordMx view name mailExchanger _ _ =>
    [.required "DNS view" view, .required "record name" name,
      .required "mail exchanger" mailExchanger]
  | recordTxt view name text _ =>
    [.required "DNS view" view, .required "record name" name, .required "text" text]
  | zoneAuth view fqdn => [.required "DNS view" view, .required "zone FQDN" fqdn]
  | attributeDefinition definition =>
    [.required "EA definition name" (definition.name.getD ""), .definitionType definition]

def Lookup.arguments : Lookup → List Argument
  | networkView name => [.required "network view name" name]
  | network view cidr family | networkContainer view cidr family =>
    Argument.networkIn view cidr family
  | fixedAddress view ip mac =>
    [.required "network view" view, .eitherGiven ip mac]
      ++ ((given ip).toList.map (.address · .v4) ++ (given mac).toList.map .mac)
  | ipv6FixedAddress view ip => [.required "network view" view, .address ip .v6]
  | recordA view name ip =>
    [.requiredAll "an A record" [("view", view), ("address", ip), ("name", name)],
      .address ip .v4]
  | recordAaaa view name ip =>
    [.requiredAll "an AAAA record" [("view", view), ("address", ip), ("name", name)],
      .address ip .v6]
  | recordPtr view pointerName ip =>
    [.requiredAll "a PTR record" [("view", view), ("ptrdname", pointerName), ("address", ip)],
      .address ip (Family.ofIpv6 (Text.has ip ':'))]
  | recordCname view canonical aliasName =>
    [.requiredAll "a CNAME record"
      [("view", view), ("canonical", canonical), ("alias", aliasName)]]
  | recordMx view name mailExchanger =>
    [.requiredAll "an MX record"
      [("view", view), ("name", name), ("mail_exchanger", mailExchanger)]]
  | recordTxt view name => [.requiredAll "a TXT record" [("view", view), ("name", name)]]
  | zoneAuth view fqdn => [.required "DNS view" view, .required "zone FQDN" fqdn]
  | attributeDefinition name => [.required "EA definition name" name]
  | grid => []

/-- Where an update may leave an argument out, only what is there is checked. -/
def Update.arguments : Update → List Argument
  | fixedAddress mac _ => mac.toList.map .mac
  | recordA _ ip _ => ip.toList.map (.address · .v4)
  | recordAaaa _ ip _ => ip.toList.map (.address · .v6)
  | _ => []

/-- The hardware address of a release is compared with the reservation's, and not checked. -/
def Task.arguments : Task → List Argument
  | create c _ => c.arguments
  | find l | findIfAny l => l.arguments
  | members _ => []
  | read _ reference | deleteAny reference => [.required "reference" reference]
  | update u reference _ => .required "reference" reference :: u.arguments
  | delete schema reference => [.required "reference" reference, .ofKind reference schema]
  | release view ip _ =>
    .required "IP address" ip :: (Lookup.fixedAddress view (some ip) none).arguments

/-! ## The address of a reservation -/

/-- **What becomes of the address of a reservation**: it is left to the server, or it is asked for
and lies in the network. -/
theorem reservedAddress_eq_ok_iff {view cidr : String} {ip : Option String} {family : Family}
    {value : AddressValue} :
    reservedAddress view cidr ip family = .ok value
      ↔ ∃ network, checkNetworkIn view cidr family = .ok network
        ∧ ((given ip = none ∧ value = .nextAvailable cidr view)
          ∨ ∃ text address, given ip = some text ∧ value = .literal text
            ∧ checkAddress text family = .ok address ∧ network.contains address = true) := by
  unfold reservedAddress
  rw [bind_eq_ok]
  refine exists_congr fun network => and_congr_right fun _ => ?_
  cases hgiven : given ip with
  | none =>
      constructor
      · intro h
        cases h
        exact .inl ⟨rfl, rfl⟩
      · rintro (⟨-, rfl⟩ | ⟨_, _, hsome, -⟩)
        · rfl
        · cases hsome
  | some text =>
      show (checkAddress text family >>= _) = _ ↔ _
      rw [bind_eq_ok]
      constructor
      · rintro ⟨address, haddress, h⟩
        split at h
        · rename_i hcontains
          cases h
          exact .inr ⟨text, address, rfl, rfl, haddress, hcontains⟩
        · cases h
      · rintro (⟨hnone, -⟩ | ⟨_, address, hsome, rfl, haddress, hcontains⟩)
        · cases hnone
        · cases hsome
          exact ⟨address, haddress, if_pos hcontains⟩

/-! ## Checks fail locally -/

/-- Where a check fails, it fails as a local check. -/
def Local (x : Checked α) : Prop := ∀ e, x = .error e → e.isValidation = true

theorem local_ok (a : α) : Local (.ok a : Checked α) := nofun

theorem local_refuse (fault : Fault) : Local (refuse fault : Checked α) := by
  intro e he
  cases he
  rfl

theorem Local.ite {c : Prop} [Decidable c] {x y : Checked α} (hx : Local x) (hy : Local y) :
    Local (if c then x else y) := by
  split
  · exact hx
  · exact hy

theorem Local.bind {x : Checked α} {f : α → Checked β} (hx : Local x) (hf : ∀ a, Local (f a)) :
    Local (x >>= f) := by
  cases x with
  | error e =>
      intro e' he'
      cases he'
      exact hx e rfl
  | ok a => exact hf a

theorem Local.map {x : Checked α} (hx : Local x) (f : α → β) : Local (x.map f) := by
  cases x with
  | error e =>
      intro e' he'
      cases he'
      exact hx e rfl
  | ok a => exact local_ok (f a)

theorem local_checkCidr (cidr : String) (family : Option Family) :
    Local (checkCidr cidr family) := by
  unfold checkCidr
  split
  · exact local_refuse _
  · exact (local_refuse _).ite ((local_ok _).ite (local_refuse _))

theorem local_checkAddress (text : String) (family : Family) :
    Local (checkAddress text family) := by
  unfold checkAddress
  split
  · exact local_refuse _
  · exact (local_ok _).ite (local_refuse _)

theorem Argument.local_check (argument : Argument) : Local argument.check := by
  cases argument with
  | required field value =>
      unfold check require
      exact (local_refuse _).ite (local_ok _)
  | requiredAll what fields =>
      unfold check requireAll
      exact (local_ok _).ite (local_refuse _)
  | network cidr family => exact (local_checkCidr cidr (some family)).map _
  | address text family => exact (local_checkAddress text family).map _
  | addressIn text cidr family =>
      unfold check
      exact (local_checkCidr cidr (some family)).bind fun network =>
        (local_checkAddress text family).bind fun address => (local_ok ()).ite (local_refuse _)
  | mac text =>
      unfold check checkMac
      exact (local_ok _).ite (local_refuse _)
  | length n family =>
      unfold check checkLength
      exact (local_refuse _).ite (local_ok _)
  | eitherGiven ip hardware =>
      unfold check
      exact (local_refuse _).ite (local_ok _)
  | definitionType definition =>
      unfold check
      exact (local_refuse _).ite (local_ok _)
  | ofKind reference schema =>
      unfold check
      exact (local_ok _).ite (local_refuse _)

/-- **A list of checks fails as its checks do.** -/
theorem local_checkAll (arguments : List Argument) : Local (checkAll arguments) := by
  induction arguments with
  | nil => exact local_ok ()
  | cons argument rest ih => exact argument.local_check.bind fun _ => ih

/-- A list with an argument that fails its check fails. -/
theorem exists_checkAll_eq_error {arguments : List Argument} {argument : Argument}
    (hmem : argument ∈ arguments) (hfails : argument.check ≠ .ok ()) :
    ∃ e, checkAll arguments = .error e := by
  induction arguments with
  | nil => cases hmem
  | cons first rest ih =>
      cases hfirst : first.check with
      | error e =>
          refine ⟨e, ?_⟩
          rw [checkAll, hfirst]
          rfl
      | ok =>
          rcases List.mem_cons.mp hmem with rfl | hmem
          · exact absurd hfirst hfails
          · obtain ⟨e, he⟩ := ih hmem
            refine ⟨e, ?_⟩
            rw [checkAll, hfirst]
            exact he

theorem checkAll_append (first second : List Argument) :
    checkAll (first ++ second) = checkAll first >>= fun _ => checkAll second := by
  induction first with
  | nil => rfl
  | cons argument rest ih =>
      show argument.check >>= (fun _ => checkAll (rest ++ second)) = _
      rw [ih]
      exact (bind_assoc argument.check (fun _ => checkAll rest) fun _ => checkAll second).symm

/-! ## Computations that begin with checks -/

/-- A computation makes the checks of a list, and comes to a value with a property once they have
passed. -/
structure Vets (arguments : List Argument) (Q : α → Prop) (x : Checked α) : Prop where
  refused : ∀ e, checkAll arguments = .error e → x = .error e
  passed : checkAll arguments = .ok () → ∃ a, x = .ok a ∧ Q a

namespace Vets

variable {first second : List Argument} {Q : α → Prop} {R : β → Prop}

theorem ok {a : α} (h : Q a) : Vets [] Q (.ok a : Checked α) where
  refused e he := by cases he
  passed _ := ⟨a, rfl, h⟩

/-- A single check. -/
theorem of_check (argument : Argument) {x : Checked α}
    (hcheck : argument.check = x.map fun _ => ()) :
    Vets [argument] (fun a => x = .ok a) x where
  refused e he := by
    rw [checkAll, hcheck] at he
    cases x with
    | error e' =>
        cases he
        rfl
    | ok a => cases he
  passed hok := by
    rw [checkAll, hcheck] at hok
    cases x with
    | error e => cases hok
    | ok a => exact ⟨a, rfl, rfl⟩

/-- A single check that makes nothing of its argument. -/
theorem check (argument : Argument) :
    Vets [argument] (fun _ => argument.check = .ok ()) argument.check := by
  refine of_check argument ?_
  cases argument.check <;> rfl

/-- **One computation and the rest.** -/
theorem bind {x : Checked α} {f : α → Checked β} (hx : Vets first Q x)
    (hf : ∀ a, Q a → Vets second R (f a)) : Vets (first ++ second) R (x >>= f) where
  refused e he := by
    rw [checkAll_append] at he
    cases hfirst : checkAll first with
    | error e' =>
        rw [hfirst] at he
        cases he
        rw [hx.refused e hfirst]
        rfl
    | ok =>
        rw [hfirst] at he
        obtain ⟨a, rfl, ha⟩ := hx.passed hfirst
        exact (hf a ha).refused e he
  passed hok := by
    rw [checkAll_append] at hok
    obtain ⟨passed, hfirst, hsecond⟩ := bind_eq_ok.mp hok
    obtain ⟨a, rfl, ha⟩ := hx.passed hfirst
    exact (hf a ha).passed hsecond

/-- A pure step afterwards. -/
theorem map {x : Checked α} {f : α → β} (hx : Vets first Q x) (h : ∀ a, Q a → R (f a)) :
    Vets first R (x.map f) where
  refused e he := by
    rw [hx.refused e he]
    rfl
  passed hok := by
    obtain ⟨a, rfl, hQ⟩ := hx.passed hok
    exact ⟨f a, rfl, h a hQ⟩

/-- A pure step at the end. -/
theorem bind_pure {x : Checked α} {f : α → β} (hx : Vets first Q x) (h : ∀ a, Q a → R (f a)) :
    Vets first R (x >>= fun a => pure (f a)) := by
  have hmap : (x >>= fun a => pure (f a)) = x.map f := by cases x <;> rfl
  rw [hmap]
  exact hx.map h

theorem mono {x : Checked α} {R : α → Prop} (hx : Vets first Q x) (h : ∀ a, Q a → R a) :
    Vets first R x where
  refused := hx.refused
  passed hok := by
    obtain ⟨a, ha, hQ⟩ := hx.passed hok
    exact ⟨a, ha, h a hQ⟩

/-- A value that has been reached has the property. -/
theorem of_eq_ok {x : Checked α} (hx : Vets first Q x) {a : α} (ha : x = .ok a) : Q a := by
  cases hchecks : checkAll first with
  | error e =>
      have herror := hx.refused e hchecks
      rw [ha] at herror
      cases herror
  | ok =>
      obtain ⟨b, hb, hQ⟩ := hx.passed hchecks
      rw [ha] at hb
      cases hb
      exact hQ

end Vets
end GridClient
