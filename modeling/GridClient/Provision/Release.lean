import GridClient.Provision.Lookup

/-!
# `GridClient.Provision.Release` — giving an address back

## Contents
- `Provisioner.release`: finds the reservation of an address and deletes it, if it is the right one.
-/

namespace GridClient.Provisioner

variable {σ : Type}

/-- Whether a hardware address that is asked for is the one of the reservation, in any case of
letters. -/
def isOwner (owner mac : String) : Bool := Text.sameIgnoringCase owner mac

/-- Gives an address back: its reservation, which has to be the one for `mac` if that is given, is
found and deleted. -/
def release (p : Provisioner σ) (view ip : String) (mac : Option String) : Session σ String := do
  Session.lift (require "IP address" ip)
  let reservation ← p.find (.fixedAddress view (some ip) none)
  let owner : String := (reservation.values .mac).getD ""
  match given mac with
  | some mac =>
    if isOwner owner mac then p.delete .fixedAddress reservation.reference
    else throw (.validation (.reservedForOther ip owner mac))
  | none => p.delete .fixedAddress reservation.reference

end GridClient.Provisioner
