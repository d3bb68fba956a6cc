import GridClient.Proofs.Provision.Basic
import GridClient.Proofs.Request.Isolation
import GridClient.Proofs.Session.Mirror
import GridClient.Provision.Task

/-!
# `GridClient.Proofs.Provision.Proxy` — forced proxying reaches the reads and nothing else

Two provisioners that differ in the proxy flag alone do the same. Every read of theirs takes its
parameters from the flag, so with the flag on it has one more pair in front of its query string; and
no write has parameters. So an operation of the one mirrors that of the other, request by request.

## Contents
- `Request.Proxied`: a request without the flag and the one in its place with it.
- `Provisioner.withProxy`: a provisioner with the flag on or off.
- `Provisioner.mirrors_*`: the operations of the two.
- `Task.proxy_reaches_reads_alone`: every task of the two, for every sequence of answers.
-/

namespace GridClient

variable {σ : Type}

/-! ## Requests -/

/-- A request of a run without the flag, and the request in its place with the flag. -/
inductive Request.Proxied : Request → Request → Prop
  /-- A write is the same. -/
  | write {r : Request} (hmethod : r.method ≠ .get) : Proxied r r
  /-- A read differs in the flag alone, which is put in front of the pairs of its query string. -/
  | read {direct proxied : Request} {target : String} {pairs : List (String × String)}
    (hmethod : direct.method = .get) (hpairs : pairs ≠ [])
    (hswitched : SwitchedOn target pairs direct proxied) : Proxied direct proxied

/-- Requests at the same place agree in all but their addresses. -/
theorem Request.Proxied.map_head_eq {direct proxied : List Request}
    (h : List.Forall₂ Proxied direct proxied) :
    proxied.map (fun r => (r.method, r.headers, r.body))
      = direct.map (fun r => (r.method, r.headers, r.body)) := by
  induction h with
  | nil => rfl
  | cons hfirst _ ih =>
      rw [List.map_cons, List.map_cons, ih]
      cases hfirst with
      | write => rfl
      | read _ _ h => rw [h.method_eq, h.headers_eq, h.body_eq]

namespace Endpoint

variable (e : Endpoint)

/-- The flag on a read whose only parameter it is. -/
theorem proxied_get (o : Object) (reference : String) :
    Request.Proxied (e.request .get (some o.snapshot) reference (Query.proxied false))
      (e.request .get (some o.snapshot) reference (Query.proxied true)) := by
  have hpairs : (Query.proxied false).pairs o.effectiveReturnFields ≠ [] := by
    rw [Query.pairs_proxied false o.effectiveReturnFields_ne_nil]
    exact List.cons_ne_nil _ _
  exact .read rfl hpairs (e.switchedOn (some o.snapshot) reference (Query.proxied false))

theorem proxied_creation (o : Object) : (e.creation o).Proxied (e.creation o) := .write nofun

theorem proxied_change (o : Object) (reference : String) :
    (e.change o reference).Proxied (e.change o reference) := .write nofun

theorem proxied_delete (reference : String) :
    (e.request .delete none reference {}).Proxied (e.request .delete none reference {}) :=
  .write nofun

end Endpoint

/-! ## Operations -/

namespace Provisioner

/-- The provisioner with every read handed on to the grid master, or with none. -/
def withProxy (p : Provisioner σ) (forceProxy : Bool) : Provisioner σ := { p with forceProxy }

variable {p : Provisioner σ} (hp : p.link.transport.Respects Request.Proxied)
include hp

theorem mirrors_read (schema : Schema) (reference : String) :
    ((p.withProxy false).read schema reference).Mirrors Request.Proxied
      ((p.withProxy true).read schema reference) :=
  (Session.mirrors_lift _).bind fun _ =>
    Link.mirrors_read hp fun _ => p.link.endpoint.proxied_get { schema } reference

theorem mirrors_find? (l : Lookup) :
    ((p.withProxy false).find? l).Mirrors Request.Proxied ((p.withProxy true).find? l) :=
  (Session.mirrors_lift _).bind fun pattern =>
    (Link.mirrors_list hp (p.link.endpoint.proxied_get pattern "")).bind fun _ =>
      Session.mirrors_lift _

theorem mirrors_find (l : Lookup) :
    ((p.withProxy false).find l).Mirrors Request.Proxied ((p.withProxy true).find l) := by
  refine (mirrors_find? hp l).bind fun found => ?_
  cases found with
  | none => exact Session.mirrors_throw _
  | some o => exact Session.mirrors_pure o

theorem mirrors_members (hostName : Option String) :
    ((p.withProxy false).members hostName).Mirrors Request.Proxied
      ((p.withProxy true).members hostName) :=
  Link.mirrors_list hp (p.link.endpoint.proxied_get _ "")

/-- The read inside an update. -/
theorem mirrors_resolve (schema : Schema) (reference : String) (change : AttributeChange) :
    ((p.withProxy false).resolve schema reference change).Mirrors Request.Proxied
      ((p.withProxy true).resolve schema reference change) := by
  unfold resolve
  split
  · exact (mirrors_read hp schema reference).bind fun _ => Session.mirrors_pure _
  · exact Session.mirrors_pure _

theorem mirrors_update (u : Update) (reference : String) (change : AttributeChange) :
    ((p.withProxy false).update u reference change).Mirrors Request.Proxied
      ((p.withProxy true).update u reference change) :=
  (Session.mirrors_lift _).bind fun _ =>
    (Session.mirrors_lift _).bind fun draft =>
      (mirrors_resolve hp u.schema reference change).bind fun attributes =>
        Link.mirrors_update hp fun _ =>
          p.link.endpoint.proxied_change { draft with attributes } reference

/-- The read after a creation whose choice no reference shows. -/
theorem mirrors_settle (o : Object) :
    ((p.withProxy false).settle o).Mirrors Request.Proxied ((p.withProxy true).settle o) := by
  unfold settle
  cases o.choice with
  | nothing => exact Session.mirrors_pure o
  | network | ipv4Address | ipv6Address =>
      exact (Session.mirrors_lift _).bind fun _ => Session.mirrors_pure _
  | unseen => exact mirrors_read hp o.schema o.reference

theorem mirrors_post (o : Object) :
    ((p.withProxy false).post o).Mirrors Request.Proxied ((p.withProxy true).post o) :=
  (Link.mirrors_create hp (p.link.endpoint.proxied_creation o)).bind fun _ =>
    Session.mirrors_pure _

theorem mirrors_create (c : Creation) (attributes : Attributes) :
    ((p.withProxy false).create c attributes).Mirrors Request.Proxied
      ((p.withProxy true).create c attributes) :=
  (Session.mirrors_lift _).bind fun _ =>
    (mirrors_post hp _).bind fun created => mirrors_settle hp created

theorem mirrors_deleteAny (reference : String) :
    ((p.withProxy false).deleteAny reference).Mirrors Request.Proxied
      ((p.withProxy true).deleteAny reference) :=
  (Session.mirrors_lift _).bind fun _ =>
    Link.mirrors_delete hp (p.link.endpoint.proxied_delete reference)

theorem mirrors_delete (schema : Schema) (reference : String) :
    ((p.withProxy false).delete schema reference).Mirrors Request.Proxied
      ((p.withProxy true).delete schema reference) := by
  refine (Session.mirrors_lift _).bind fun _ => ?_
  split
  · exact Link.mirrors_delete hp (p.link.endpoint.proxied_delete reference)
  · exact Session.mirrors_throw _

/-- The look-up before a release, and the deletion that comes of it. -/
theorem mirrors_release (view ip : String) (mac : Option String) :
    ((p.withProxy false).release view ip mac).Mirrors Request.Proxied
      ((p.withProxy true).release view ip mac) := by
  refine (Session.mirrors_lift _).bind fun _ =>
    (mirrors_find hp (.fixedAddress view (some ip) none)).bind fun reservation => ?_
  cases given mac with
  | none => exact mirrors_delete hp .fixedAddress reservation.reference
  | some mac =>
      show Session.Mirrors _ (if _ then _ else _ : Session σ String) (if _ then _ else _)
      split
      · exact mirrors_delete hp .fixedAddress reservation.reference
      · exact Session.mirrors_throw _

end Provisioner

/-! ## The theorem -/

/-- A task of the one mirrors the same task of the other. -/
theorem Task.mirrors_run {p : Provisioner σ} (hp : p.link.transport.Respects Request.Proxied)
    (t : Task) :
    (t.run (p.withProxy false)).Mirrors Request.Proxied (t.run (p.withProxy true)) := by
  cases t with
  | create c attributes => exact (Provisioner.mirrors_create hp c attributes).map _
  | read schema reference => exact (Provisioner.mirrors_read hp schema reference).map _
  | find l => exact (Provisioner.mirrors_find hp l).map _
  | findIfAny l => exact (Provisioner.mirrors_find? hp l).map _
  | members hostName => exact (Provisioner.mirrors_members hp hostName).map _
  | update u reference change => exact (Provisioner.mirrors_update hp u reference change).map _
  | delete schema reference => exact (Provisioner.mirrors_delete hp schema reference).map _
  | deleteAny reference => exact (Provisioner.mirrors_deleteAny hp reference).map _
  | release view ip mac => exact (Provisioner.mirrors_release hp view ip mac).map _

/-- **Forced proxying reaches every read and nothing else.** Where the answers do not depend on the
flag, a task comes to the same with and without it, and leaves phase and server the same. It sends
the same methods, headers and bodies in the same order. A write goes to the same address as well;
the address of a read has the flag as the first pair of its query string, and is otherwise the
same. -/
theorem Task.proxy_reaches_reads_alone (p : Provisioner σ)
    (hp : p.link.transport.Respects Request.Proxied) (t : Task) (w : World σ) :
    let direct := t.run (p.withProxy false)
    let proxied := t.run (p.withProxy true)
    (direct.runIn w).1 = (proxied.runIn w).1
      ∧ (direct.runIn w).2.Alike (proxied.runIn w).2
      ∧ (proxied.newRequests w).map (fun r => (r.method, r.headers, r.body))
          = (direct.newRequests w).map (fun r => (r.method, r.headers, r.body))
      ∧ List.Forall₂ Request.Proxied (direct.newRequests w) (proxied.newRequests w) := by
  intro direct proxied
  obtain ⟨hout, halike, hsent⟩ := (t.mirrors_run hp).newRequests w
  exact ⟨hout, halike, Request.Proxied.map_head_eq hsent, hsent⟩

/-- An update that reads the attributes before it writes them. -/
theorem Task.proxy_reaches_reads_alone_of_keep :
    let p : Provisioner (List (Checked Response)) := { link := .scripted }
    let t := Task.update (.networkView (some "lab")) "networkview/ZG5z:default/true" .keep
    let w := World.start [.ok ⟨200, Text.Utf8.encode "\x7b\"name\":\"default\"\x7d"⟩,
      .ok ⟨200, Text.Utf8.encode "\"networkview/ZG5z:default/true\""⟩]
    ((t.run (p.withProxy true)).newRequests w).map Request.method = [.get, .put]
      ∧ List.Forall₂ Request.Proxied ((t.run (p.withProxy false)).newRequests w)
          ((t.run (p.withProxy true)).newRequests w) := by
  intro p t w
  refine ⟨by decide, (t.proxy_reaches_reads_alone p ?_ w).2.2.2⟩
  exact Transport.respects_scripted

end GridClient
