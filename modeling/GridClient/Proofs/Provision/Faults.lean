import GridClient.Proofs.Provision.Creation
import GridClient.Proofs.Provision.Requests

/-!
# `GridClient.Proofs.Provision.Faults` — failures of local checks, and what was written before them

A local check that fails is meant to fail before anything is sent. Every task but a creation keeps
to that, reads apart. A creation whose choice the server makes checks once more: when the object is
there and its reference does not show the choice, the failure is one of a local check.

## Contents
- `readsOnly_*`, `refusesFirst_*`: the operations of a provisioner.
- `ServerChoice.Unreadable`: references from which a choice cannot be found out.
- `Task.fault_after_write_iff`: when a task has written and then fails with a local check.
-/

namespace GridClient

variable {σ : Type}

/-! ## Operations -/

namespace Provisioner

variable (p : Provisioner σ)

theorem readsOnly_read (schema : Schema) (reference : String) :
    (p.read schema reference).ReadsOnly := sendsOnly_read fun _ => rfl

theorem readsOnly_find? (l : Lookup) : (p.find? l).ReadsOnly := sendsOnly_find? fun _ _ => rfl

theorem readsOnly_find (l : Lookup) : (p.find l).ReadsOnly := sendsOnly_find fun _ _ => rfl

theorem readsOnly_members (hostName : Option String) : (p.members hostName).ReadsOnly :=
  sendsOnly_members rfl

theorem readsOnly_resolve (schema : Schema) (reference : String) (change : AttributeChange) :
    (p.resolve schema reference change).ReadsOnly := sendsOnly_resolve fun _ => rfl

theorem readsOnly_settle (o : Object) : (p.settle o).ReadsOnly := sendsOnly_settle fun _ => rfl

variable {p} (hlink : p.link.transport.KeepsContract)

include hlink

theorem refusesFirst_update (u : Update) (reference : String) (change : AttributeChange) :
    (p.update u reference change).RefusesFirst :=
  (Session.readsOnly_lift _).bind_refusesFirst fun _ =>
    (Session.readsOnly_lift _).bind_refusesFirst fun _ =>
      (p.readsOnly_resolve _ _ _).bind_refusesFirst fun _ =>
        Link.refusesFirst_update hlink _ _

theorem refusesFirst_deleteAny (reference : String) : (p.deleteAny reference).RefusesFirst :=
  (Session.readsOnly_lift _).bind_refusesFirst fun _ => Link.refusesFirst_delete hlink _

theorem refusesFirst_delete (schema : Schema) (reference : String) :
    (p.delete schema reference).RefusesFirst := by
  refine (Session.readsOnly_lift _).bind_refusesFirst fun _ => ?_
  split
  · exact Link.refusesFirst_delete hlink reference
  · exact (Session.readsOnly_throw _).refusesFirst

theorem refusesFirst_release (view ip : String) (mac : Option String) :
    (p.release view ip mac).RefusesFirst := by
  refine (Session.readsOnly_lift _).bind_refusesFirst fun _ =>
    (p.readsOnly_find _).bind_refusesFirst fun reservation => ?_
  cases given mac with
  | none => exact refusesFirst_delete hlink _ _
  | some mac =>
      show (if _ then _ else _ : Session σ String).RefusesFirst
      split
      · exact refusesFirst_delete hlink _ _
      · exact (Session.readsOnly_throw _).refusesFirst

end Provisioner

/-- **A task that is not a creation refuses first.** -/
theorem Task.refusesFirst_run {p : Provisioner σ} (hlink : p.link.transport.KeepsContract)
    {t : Task} (ht : ∀ c attributes, t ≠ .create c attributes) : (t.run p).RefusesFirst := by
  cases t with
  | create c attributes => exact absurd rfl (ht c attributes)
  | read schema reference => exact (p.readsOnly_read schema reference).refusesFirst.map _
  | find l => exact (p.readsOnly_find l).refusesFirst.map _
  | findIfAny l => exact (p.readsOnly_find? l).refusesFirst.map _
  | members hostName => exact (p.readsOnly_members hostName).refusesFirst.map _
  | update u reference change =>
      exact (Provisioner.refusesFirst_update hlink u reference change).map _
  | delete schema reference => exact (Provisioner.refusesFirst_delete hlink schema reference).map _
  | deleteAny reference => exact (Provisioner.refusesFirst_deleteAny hlink reference).map _
  | release view ip mac => exact (Provisioner.refusesFirst_release hlink view ip mac).map _

/-! ## Creations -/

/-- A choice of the server cannot be found out from a reference. -/
def ServerChoice.Unreadable : ServerChoice → (reference : String) → Prop
  | nothing, _ => False
  | network, reference | ipv4Address, reference | ipv6Address, reference =>
    ∀ a : Assigned, ¬ a.ShownBy reference
  | unseen, reference => Text.isBlankText reference = true

namespace Provisioner

variable {p : Provisioner σ} {w : World σ}

theorem refused_ofReference_iff {reference : String} :
    Refused (Assigned.ofReference reference) ↔ ∀ a : Assigned, ¬ a.ShownBy reference := by
  constructor
  · rintro ⟨e, he, -⟩ a ha
    rw [Assigned.ofReference_eq_ok_iff.mpr ha] at he
    cases he
  · intro h
    obtain ⟨e, he⟩ := Assigned.ofReference_error h
    exact ⟨e, he, Assigned.isValidation_of_ofReference he⟩

/-- In an open session a read by a reference is refused exactly if that is blank. -/
theorem refused_read_iff (hlink : p.link.transport.KeepsContract) (schema : Schema)
    {reference : String} (hopen : w.phase ≠ .closed) :
    Refused ((p.read schema reference).runIn w).1 ↔ Text.isBlankText reference = true := by
  cases hblank : Text.isBlankText reference with
  | true =>
      have hrun : (p.read schema reference).runIn w = _ :=
        Session.runIn_lift_bind_error (require_of_blank "reference" hblank) _ w
      rw [hrun]
      exact ⟨fun _ => rfl, fun _ => ⟨_, rfl, rfl⟩⟩
  | false =>
      rw [p.runIn_read schema hblank hopen]
      refine ⟨?_, nofun⟩
      intro hrefused
      refine absurd hrefused
        (not_refused_bind (Link.not_refused_outcome hlink _ _ _) fun body => ?_)
      rw [refused_map_iff]
      exact Object.not_refused_decode _ _ _

/-- **A created object is refused exactly if its reference does not show the choice.** -/
theorem refused_settle_iff (hlink : p.link.transport.KeepsContract) {o : Object}
    (hopen : w.phase ≠ .closed) :
    Refused ((p.settle o).runIn w).1 ↔ o.choice.Unreadable o.reference := by
  cases hchoice : o.choice with
  | nothing =>
      unfold settle
      rw [hchoice]
      exact ⟨nofun, nofun⟩
  | network | ipv4Address | ipv6Address =>
      rw [runIn_settle_of_shown (by rw [hchoice]; rfl)]
      exact (refused_map_iff _).trans refused_ofReference_iff
  | unseen =>
      rw [runIn_settle_of_unseen hchoice]
      exact refused_read_iff hlink _ hopen

/-- Once the server has answered with a reference, that decides. -/
theorem refused_create_iff (hlink : p.link.transport.KeepsContract) {c : Creation}
    {attributes : Attributes} {draft : Object} {reference : String} (hdraft : c.draft = .ok draft)
    (hopen : w.phase ≠ .closed) (hcreated : p.created draft attributes w = .ok reference) :
    Refused ((p.create c attributes).runIn w).1 ↔ c.wanted.Unreadable reference := by
  have hopen' : (p.link.after (p.postRequest draft attributes) w).phase ≠ .closed := hopen
  rw [runIn_create_of_ok hdraft hopen hcreated, refused_settle_iff hlink hopen',
    p.choice_referred, Creation.choice_of_draft hdraft]
  rfl

theorem not_refused_created (hlink : p.link.transport.KeepsContract) (draft : Object)
    (attributes : Attributes) (w : World σ) : ¬ Refused (p.created draft attributes w) :=
  not_refused_bind (Link.not_refused_outcome hlink _ _ _) fun _ => not_refused_decodeText _ _

/-- A creation writes and is refused exactly if it is answered with a reference from which the
server's choice cannot be found out. -/
theorem refused_create_after_write_iff (hlink : p.link.transport.KeepsContract) {c : Creation}
    {attributes : Attributes} :
    (Refused ((p.create c attributes).runIn w).1
        ∧ ∃ q ∈ (p.create c attributes).newRequests w, q.method ≠ .get)
      ↔ ∃ draft reference, c.draft = .ok draft ∧ w.phase ≠ .closed
          ∧ p.created draft attributes w = .ok reference ∧ c.wanted.Unreadable reference := by
  constructor
  · rintro ⟨hrefused, q, hq, hmethod⟩
    cases hdraft : c.draft with
    | error e =>
        -- the draft is refused before anything is sent
        have hrun : (p.create c attributes).runIn w = (.error e, w) :=
          runIn_create_of_draft_error hdraft
        have hnone : (p.create c attributes).newRequests w = [] :=
          Session.newRequests_eq (by rw [hrun, List.append_nil])
        rw [hnone] at hq
        cases hq
    | ok draft =>
        by_cases hopen : w.phase = .closed
        · -- a closed session fails otherwise
          rw [runIn_create_of_closed hdraft hopen] at hrefused
          exact absurd hrefused (not_refused_error rfl)
        · cases hcreated : p.created draft attributes w with
          | error e =>
              -- so does an answer that is no reference, or none at all
              have hnot := not_refused_created hlink draft attributes w
              rw [runIn_create_of_error hdraft hopen hcreated] at hrefused
              rw [hcreated] at hnot
              exact absurd (refused_error_iff.mpr (refused_error_iff.mp hrefused)) hnot
          | ok reference =>
              exact ⟨draft, reference, rfl, hopen, hcreated,
                (refused_create_iff hlink hdraft hopen hcreated).mp hrefused⟩
  · rintro ⟨draft, reference, hdraft, hopen, hcreated, hunreadable⟩
    have hrun := runIn_create_of_ok hdraft hopen hcreated
    refine ⟨(refused_create_iff hlink hdraft hopen hcreated).mpr hunreadable,
      p.postRequest draft attributes, ?_, ?_⟩
    · -- settling adds to the requests and takes none away
      obtain ⟨more, hmore, -⟩ := p.readsOnly_settle (p.referred draft attributes reference)
        (p.link.after (p.postRequest draft attributes) w)
      have hnew : (p.create c attributes).newRequests w
          = p.postRequest draft attributes :: more := by
        refine Session.newRequests_eq ?_
        rw [hrun, hmore, Link.after_sent, List.append_assoc]
        rfl
      rw [hnew]
      exact List.mem_cons_self
    · rw [(p.posts_postRequest draft attributes).method]
      decide

end Provisioner

/-! ## The theorem -/

/-- **A local check that fails after a write.** A task has written and then fails with the failure
of a local check in one case alone: it creates an object that the server has to complete, and the
server answers with a reference from which its choice cannot be found out. -/
theorem Task.fault_after_write_iff {p : Provisioner σ} (hlink : p.link.transport.KeepsContract)
    (t : Task) (w : World σ) :
    (Refused ((t.run p).runIn w).1 ∧ ∃ q ∈ (t.run p).newRequests w, q.method ≠ .get)
      ↔ ∃ c attributes draft reference, t = .create c attributes ∧ c.draft = .ok draft
          ∧ w.phase ≠ .closed ∧ p.created draft attributes w = .ok reference
          ∧ c.wanted.Unreadable reference := by
  by_cases ht : ∃ c attributes, t = .create c attributes
  · obtain ⟨c, attributes, rfl⟩ := ht
    show (Refused ((Reply.object <$> p.create c attributes).runIn w).1
      ∧ ∃ q ∈ (Reply.object <$> p.create c attributes).newRequests w, q.method ≠ .get) ↔ _
    rw [Session.runIn_map, Session.newRequests_map, refused_map_iff,
      Provisioner.refused_create_after_write_iff hlink]
    constructor
    · rintro ⟨draft, reference, h⟩
      exact ⟨c, attributes, draft, reference, rfl, h⟩
    · rintro ⟨c', attributes', draft, reference, heq, h⟩
      cases heq
      exact ⟨draft, reference, h⟩
  · constructor
    · rintro ⟨hrefused, q, hq, hmethod⟩
      have hfirst : (t.run p).RefusesFirst :=
        t.refusesFirst_run hlink fun c attributes h => ht ⟨c, attributes, h⟩
      exact absurd (hfirst.newRequests w hrefused q hq) hmethod
    · rintro ⟨c, attributes, -, -, h, -⟩
      exact absurd ⟨c, attributes, h⟩ ht

set_option maxRecDepth 4000 in
/-- A record whose reference is blank cannot be read back, though it is there. -/
theorem Task.fault_after_write_of_blank :
    let transport : Transport Unit :=
      { name := "blank", exchange := fun _ server => (.ok ⟨201, Text.Utf8.encode "\" \""⟩, server) }
    let p : Provisioner Unit := { link := { Link.scripted with transport } }
    let t := Task.create
      (.recordA "default" "a.example" (.nextAvailable "10.0.0.0/24" "default") none) ∅
    transport.KeepsContract
    ∧ Refused ((t.run p).runIn (World.start ())).1
    ∧ ∃ q ∈ (t.run p).newRequests (World.start ()), q.method ≠ .get := by
  intro transport p t
  have hlink : transport.KeepsContract := by
    intro r server e h
    cases h
  exact ⟨hlink, (Task.fault_after_write_iff (p := p) hlink t _).mpr
    ⟨_, _, _, _, rfl, rfl, by decide, rfl, rfl⟩⟩

set_option maxRecDepth 4000 in
/-- A network is created, and the call that creates it ends with the failure of a local check. -/
theorem Task.fault_after_creation :
    let p : Provisioner (List (Checked Response)) := { link := .scripted }
    let t := Task.create (.nextNetwork "default" "10.0.0.0/16" 24 .v4 none) ∅
    let w := World.start [.ok ⟨201, Text.Utf8.encode "\"network/ZG5z:default\""⟩]
    Refused ((t.run p).runIn w).1 ∧ ((t.run p).newRequests w).map (·.method) = [.post] :=
  ⟨⟨.validation (.nothingAllocated "network/ZG5z:default"), rfl, rfl⟩, rfl⟩

end GridClient
