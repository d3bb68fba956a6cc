import GridClient.Proofs.Provision.Deletion
import GridClient.Proofs.Provision.Drafts
import GridClient.Proofs.Provision.Requests

/-!
# `GridClient.Proofs.Provision.Screening` — malformed values are never sent

Every operation checks its arguments before it sends anything. So an argument that fails its check
ends the operation at once, in whatever phase the session is; and whatever an operation does send
has been checked.

## Contents
- `Session.Heeds`: a computation ends with the first check of a list that fails, with its rules.
- `Provisioner.heeds_*`: the operations of a provisioner.
- `Task.heeds`, `Task.sendsOnly_wellFormed`: the two halves, for every task; `Task.screens`: both
  together.
-/

namespace GridClient

variable {σ α β : Type}

/-! ## Heeding checks -/

namespace Session

/-- Where the checks of a list fail, the computation fails as they do and does nothing else. -/
def Heeds (arguments : List Argument) (x : Session σ α) : Prop :=
  ∀ e, checkAll arguments = .error e → ∀ w, x.runIn w = (.error e, w)

theorem heeds_nil (x : Session σ α) : x.Heeds [] := by
  intro e he
  cases he

theorem heeds_of_check {argument : Argument} {x : Session σ α}
    (h : ∀ e, argument.check = .error e → ∀ w, x.runIn w = (.error e, w)) :
    x.Heeds [argument] := by
  intro e he
  cases hcheck : argument.check with
  | error e' =>
      rw [checkAll, hcheck] at he
      cases he
      exact h e hcheck
  | ok =>
      rw [checkAll, hcheck] at he
      cases he

/-- The checks of a first step. -/
theorem heeds_lift_bind {first second : List Argument} {Q : α → Prop} {x : Checked α}
    {f : α → Session σ β} (hx : Vets first Q x) (hf : ∀ a, Q a → (f a).Heeds second) :
    (Session.lift x >>= f).Heeds (first ++ second) := by
  intro e he w
  rw [checkAll_append] at he
  cases hfirst : checkAll first with
  | error e' =>
      rw [hfirst] at he
      cases he
      exact runIn_lift_bind_error (hx.refused e hfirst) f w
  | ok =>
      -- the first list has passed, so it is the second that fails
      rw [hfirst] at he
      obtain ⟨a, ha, hQ⟩ := hx.passed hfirst
      rw [runIn_lift_bind ha]
      exact hf a hQ e he w

/-- The checks of a first step are all there are. -/
theorem heeds_lift_bind_of_vets {arguments : List Argument} {Q : α → Prop} {x : Checked α}
    (hx : Vets arguments Q x) (f : α → Session σ β) : (Session.lift x >>= f).Heeds arguments := by
  intro e he w
  exact runIn_lift_bind_error (hx.refused e he) f w

theorem Heeds.bind {arguments : List Argument} {x : Session σ α} (hx : x.Heeds arguments)
    (f : α → Session σ β) : (x >>= f).Heeds arguments := by
  intro e he w
  rw [runIn_bind, hx e he w]

theorem Heeds.map {arguments : List Argument} {x : Session σ α} (hx : x.Heeds arguments)
    (g : α → β) : (g <$> x).Heeds arguments := by
  intro e he w
  rw [runIn_map, hx e he w]
  rfl

end Session

/-! ## Operations -/

namespace Provisioner

variable (p : Provisioner σ)

theorem heeds_create (c : Creation) (attributes : Attributes) :
    (p.create c attributes).Heeds c.arguments :=
  Session.heeds_lift_bind_of_vets c.vets_draft _

theorem heeds_read (schema : Schema) (reference : String) :
    (p.read schema reference).Heeds [.required "reference" reference] :=
  Session.heeds_lift_bind_of_vets (Vets.required "reference" reference) _

theorem heeds_find? (l : Lookup) : (p.find? l).Heeds l.arguments :=
  Session.heeds_lift_bind_of_vets l.vets_pattern _

theorem heeds_find (l : Lookup) : (p.find l).Heeds l.arguments := (p.heeds_find? l).bind _

theorem heeds_update (u : Update) (reference : String) (change : AttributeChange) :
    (p.update u reference change).Heeds (.required "reference" reference :: u.arguments) :=
  Session.heeds_lift_bind (Vets.required "reference" reference) fun _ _ =>
    Session.heeds_lift_bind_of_vets u.vets_draft _

theorem heeds_deleteAny (reference : String) :
    (p.deleteAny reference).Heeds [.required "reference" reference] :=
  Session.heeds_lift_bind_of_vets (Vets.required "reference" reference) _

theorem heeds_delete (schema : Schema) (reference : String) :
    (p.delete schema reference).Heeds
      [.required "reference" reference, .ofKind reference schema] := by
  let rest : Session σ String :=
    if (objectTypeOf? reference).any schema.objectTypes.contains then p.link.delete reference
    else throw (.validation (.wrongType reference schema.objectType))
  have hkind : ∀ e, (Argument.ofKind reference schema).check = .error e → ∀ w : World σ,
      rest.runIn w = (.error e, w) := by
    intro e he w
    simp only [Argument.check] at he
    by_cases hany : (objectTypeOf? reference).any schema.objectTypes.contains = true
    · rw [if_pos hany] at he
      cases he
    · rw [if_neg hany] at he
      cases he
      have hrest : rest = throw (.validation (.wrongType reference schema.objectType)) :=
        if_neg hany
      rw [hrest, Session.runIn_throw]
  rw [delete_eq]
  exact Session.heeds_lift_bind (Vets.required "reference" reference) fun _ _ =>
    Session.heeds_of_check hkind

/-- The address is required before the reservation is looked up by it. -/
theorem heeds_release (view ip : String) (mac : Option String) :
    (p.release view ip mac).Heeds (.required "IP address" ip
      :: (Lookup.fixedAddress view (some ip) none).arguments) :=
  Session.heeds_lift_bind (Vets.required "IP address" ip) fun _ _ =>
    (p.heeds_find (.fixedAddress view (some ip) none)).bind _

end Provisioner

/-- **A task heeds the checks of its arguments**, in whatever phase the session is. -/
theorem Task.heeds (p : Provisioner σ) (t : Task) : (t.run p).Heeds t.arguments := by
  cases t with
  | create c attributes => exact (p.heeds_create c attributes).map _
  | read schema reference => exact (p.heeds_read schema reference).map _
  | find l => exact (p.heeds_find l).map _
  | findIfAny l => exact (p.heeds_find? l).map _
  | members hostName => exact Session.heeds_nil _
  | update u reference change => exact (p.heeds_update u reference change).map _
  | delete schema reference => exact (p.heeds_delete schema reference).map _
  | deleteAny reference => exact (p.heeds_deleteAny reference).map _
  | release view ip mac => exact (p.heeds_release view ip mac).map _

/-! ## What is sent -/

/-- A request that carries nothing is well-formed. -/
theorem Endpoint.wellFormed_reading (e : Endpoint) (template : Object) {reference : String}
    (query : Query) (href : reference ≠ "") :
    (e.reading template reference query).WellFormed e := by
  refine Request.wellFormed_of_none ?_
  rw [e.reading_eq template query href]

theorem Endpoint.wellFormed_deletion (e : Endpoint) (reference : String) :
    (e.request .delete none reference {}).WellFormed e := Request.wellFormed_of_none rfl

/-- The members of the grid are listed by name alone. -/
theorem Provisioner.sendable_memberPattern (hostName : Option String) :
    (memberPattern hostName).Sendable :=
  Object.sendable_of_schema rfl ((Object.holds_of_none rfl).set (f := .hostName)
    fun _ _ => trivial) rfl

/-- **A task sends nothing but well-formed requests.** -/
theorem Task.sendsOnly_wellFormed (p : Provisioner σ) (t : Task) :
    (t.run p).SendsOnly (·.WellFormed p.link.endpoint) := by
  let e := p.link.endpoint
  -- reads of one object and deletions carry nothing; searches carry the pattern of a look-up
  have hread : ∀ schema reference, reference ≠ "" →
      (e.reading { schema } reference p.readQuery).WellFormed e :=
    fun schema reference href => e.wellFormed_reading { schema } p.readQuery href
  have hlist : ∀ l : Lookup, ∀ pattern, l.pattern = .ok pattern →
      (e.request .get (some pattern.snapshot) "" p.readQuery).WellFormed e :=
    fun l pattern hpattern => (l.vets_pattern.of_eq_ok hpattern).listing e rfl
  cases t with
  | create c attributes =>
      refine (Provisioner.sendsOnly_create (fun draft hdraft => ?_) hread).map _
      exact ((c.vets_draft.of_eq_ok hdraft).withAttributes _).creation e
  | read schema reference => exact (Provisioner.sendsOnly_read (hread schema reference)).map _
  | find l => exact (Provisioner.sendsOnly_find (hlist l)).map _
  | findIfAny l => exact (Provisioner.sendsOnly_find? (hlist l)).map _
  | members hostName =>
      exact (Provisioner.sendsOnly_members
        ((Provisioner.sendable_memberPattern hostName).listing e rfl)).map _
  | update u reference change =>
      refine (Provisioner.sendsOnly_update (hread u.schema reference)
        fun draft hdraft attributes href => ?_).map _
      have hholds := u.vets_draft.of_eq_ok hdraft
      exact Object.Holds.change (o := { draft with attributes }) hholds e href
  | delete schema reference =>
      exact (Provisioner.sendsOnly_delete (e.wellFormed_deletion reference)).map _
  | deleteAny reference =>
      exact (Provisioner.sendsOnly_deleteAny (e.wellFormed_deletion reference)).map _
  | release view ip mac =>
      exact (Provisioner.sendsOnly_release (hlist _) e.wellFormed_deletion).map _

/-! ## The theorem -/

/-- **Malformed values are never sent.** Whatever a task sends is well-formed; and an argument that
fails its check ends the task with the failure of a local check, before anything is sent and
whatever the phase of the session. -/
theorem Task.screens (p : Provisioner σ) (t : Task) (w : World σ) :
    (∃ new, ((t.run p).runIn w).2.sent = w.sent ++ new
        ∧ ∀ q ∈ new, q.WellFormed p.link.endpoint)
    ∧ ∀ argument ∈ t.arguments, argument.check ≠ .ok () →
        ∃ e, e.isValidation = true ∧ (t.run p).runIn w = (.error e, w) := by
  refine ⟨t.sendsOnly_wellFormed p w, fun argument hmem hfails => ?_⟩
  -- the first check that fails may be an earlier one; it is a local check all the same
  obtain ⟨e, he⟩ := exists_checkAll_eq_error hmem hfails
  exact ⟨e, local_checkAll _ e he, t.heeds p e he w⟩

/-- A hardware address of three octets ends an update in a closed session, as in any other. -/
theorem Task.screens_of_mac :
    let p : Provisioner (List (Checked Response)) := { link := .scripted }
    let t := Task.update (.fixedAddress (some "00:11:22") none) "fixedaddress/ZG5z" .keep
    let w : World (List (Checked Response)) := { World.start [] with phase := .closed }
    Argument.mac "00:11:22" ∈ t.arguments
      ∧ ∃ e, e.isValidation = true ∧ (t.run p).runIn w = (.error e, w) := by
  intro p t w
  have hmem : Argument.mac "00:11:22" ∈ t.arguments := .tail _ (.head _)
  have hrefused : (Argument.mac "00:11:22").check
      = .error (.validation (.macMismatch "00:11:22")) := rfl
  have hfails : (Argument.mac "00:11:22").check ≠ .ok () := by
    rw [hrefused]
    nofun
  exact ⟨hmem, (t.screens p w).2 _ hmem hfails⟩

end GridClient
