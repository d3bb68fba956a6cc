import GridClient.Proofs.Session.Effects
import GridClient.Provision.Task

/-!
# `GridClient.Proofs.Provision.Requests` — the requests of a provisioner

Which requests an operation sends is fixed by how it is put together: a look-up lists what agrees
with its pattern, a creation posts its draft and reads at most once more, an update reads at most
once and writes its draft. A property of all these requests is one of all that the operation sends.

## Contents
- `Provisioner.sendsOnly_*`: the operations, each with the requests that it may send.
-/

namespace GridClient.Provisioner

variable {σ : Type} {p : Provisioner σ} {P : Request → Prop}

/-! ## Reading -/

theorem sendsOnly_read {schema : Schema} {reference : String}
    (h : reference ≠ "" → P (p.link.endpoint.reading { schema } reference p.readQuery)) :
    (p.read schema reference).SendsOnly P :=
  (Session.sendsOnly_lift _).bind fun _ => Link.sendsOnly_read h

theorem sendsOnly_find? {l : Lookup}
    (h : ∀ pattern, l.pattern = .ok pattern →
      P (p.link.endpoint.request .get (some pattern.snapshot) "" p.readQuery)) :
    (p.find? l).SendsOnly P :=
  Session.sendsOnly_lift_bind fun pattern hpattern =>
    (Link.sendsOnly_list (h pattern hpattern)).bind fun _ => Session.sendsOnly_lift _

/-- To insist on an object takes no further request. -/
theorem sendsOnly_find {l : Lookup}
    (h : ∀ pattern, l.pattern = .ok pattern →
      P (p.link.endpoint.request .get (some pattern.snapshot) "" p.readQuery)) :
    (p.find l).SendsOnly P := by
  refine (sendsOnly_find? h).bind fun found => ?_
  cases found with
  | none => exact Session.sendsOnly_throw _
  | some o => exact Session.sendsOnly_pure o

/-- The pattern by which the members of the grid are listed. -/
def memberPattern (hostName : Option String) : Object :=
  ({ schema := .member } : Object).set .hostName (given hostName)

theorem sendsOnly_members {hostName : Option String}
    (h : P (p.link.endpoint.request .get (some (memberPattern hostName).snapshot) ""
      p.readQuery)) :
    (p.members hostName).SendsOnly P := Link.sendsOnly_list h

/-! ## Writing -/

theorem sendsOnly_resolve {schema : Schema} {reference : String} {change : AttributeChange}
    (h : reference ≠ "" → P (p.link.endpoint.reading { schema } reference p.readQuery)) :
    (p.resolve schema reference change).SendsOnly P := by
  unfold resolve
  split
  · exact (sendsOnly_read h).bind fun _ => Session.sendsOnly_pure _
  · exact Session.sendsOnly_pure _

theorem sendsOnly_update {u : Update} {reference : String} {change : AttributeChange}
    (hread : reference ≠ "" →
      P (p.link.endpoint.reading { schema := u.schema } reference p.readQuery))
    (hwrite : ∀ draft, u.draft = .ok draft → ∀ attributes, reference ≠ "" →
      P (p.link.endpoint.change { draft with attributes } reference)) :
    (p.update u reference change).SendsOnly P :=
  (Session.sendsOnly_lift _).bind fun _ =>
    Session.sendsOnly_lift_bind fun draft hdraft =>
      (sendsOnly_resolve hread).bind fun attributes =>
        Link.sendsOnly_update (hwrite draft hdraft attributes)

/-- What is settled after a creation is settled by a read at most. -/
theorem sendsOnly_settle {o : Object}
    (h : o.reference ≠ "" →
      P (p.link.endpoint.reading { schema := o.schema } o.reference p.readQuery)) :
    (p.settle o).SendsOnly P := by
  unfold settle
  cases o.choice with
  | nothing => exact Session.sendsOnly_pure o
  | network | ipv4Address | ipv6Address =>
      exact (Session.sendsOnly_lift _).bind fun _ => Session.sendsOnly_pure _
  | unseen => exact sendsOnly_read h

theorem sendsOnly_create {c : Creation} {attributes : Attributes}
    (hpost : ∀ draft, c.draft = .ok draft →
      P (p.link.endpoint.creation { draft with attributes := p.ownedAttributes attributes }))
    (hread : ∀ schema reference, reference ≠ "" →
      P (p.link.endpoint.reading { schema } reference p.readQuery)) :
    (p.create c attributes).SendsOnly P := by
  refine Session.sendsOnly_lift_bind fun draft hdraft => ?_
  have hcreated : (p.post { draft with
      attributes := p.ownedAttributes attributes }).SendsOnly P :=
    (Link.sendsOnly_create (hpost draft hdraft)).bind fun _ => Session.sendsOnly_pure _
  exact hcreated.bind fun _ => sendsOnly_settle (hread _ _)

/-! ## Deleting -/

theorem sendsOnly_deleteAny {reference : String}
    (h : P (p.link.endpoint.request .delete none reference {})) :
    (p.deleteAny reference).SendsOnly P :=
  (Session.sendsOnly_lift _).bind fun _ => Link.sendsOnly_delete h

theorem sendsOnly_delete {schema : Schema} {reference : String}
    (h : P (p.link.endpoint.request .delete none reference {})) :
    (p.delete schema reference).SendsOnly P := by
  refine (Session.sendsOnly_lift _).bind fun _ => ?_
  split
  · exact Link.sendsOnly_delete h
  · exact Session.sendsOnly_throw _

theorem sendsOnly_release {view ip : String} {mac : Option String}
    (hfind : ∀ pattern, (Lookup.fixedAddress view (some ip) none).pattern = .ok pattern →
      P (p.link.endpoint.request .get (some pattern.snapshot) "" p.readQuery))
    (hdelete : ∀ reference, P (p.link.endpoint.request .delete none reference {})) :
    (p.release view ip mac).SendsOnly P := by
  refine (Session.sendsOnly_lift _).bind fun _ =>
    (sendsOnly_find hfind).bind fun reservation => ?_
  cases given mac with
  | none => exact sendsOnly_delete (hdelete _)
  | some mac =>
      show (if _ then _ else _ : Session σ String).SendsOnly P
      split
      · exact sendsOnly_delete (hdelete _)
      · exact Session.sendsOnly_throw _

end GridClient.Provisioner
