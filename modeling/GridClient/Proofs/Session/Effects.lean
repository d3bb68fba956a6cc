import GridClient.Proofs.Session.Exchange

/-!
# `GridClient.Proofs.Session.Effects` — what a computation sends, and how it ends

A computation only ever adds to the requests that are sent. A property of what it adds and of its
outcome is put together along the computation, from the properties of its steps.

## Contents
- `Session.Ensures`: the requests that are added and the outcome have a property, in any world;
  `Session.newRequests`: those requests.
- `Session.SendsOnly`: all of them have a property; `Session.ReadsOnly`: they are reads.
- `Refused`: the failure of a local check; `Session.NeverRefuses`: there is none;
  `Session.RefusesFirst`: it comes after reads at most.
- `Transport.KeepsContract`: what a transport owes.
- The verbs of a session, by these properties.
-/

namespace GridClient

variable {σ α β : Type}

/-! ## Refusals -/

/-- An outcome is the failure of a local check. -/
def Refused (r : Checked α) : Prop := ∃ e, r = .error e ∧ e.isValidation = true

theorem refused_error_iff {e : Error} :
    Refused (.error e : Checked α) ↔ e.isValidation = true := by
  constructor
  · rintro ⟨_, he, h⟩
    cases he
    exact h
  · exact fun h => ⟨e, rfl, h⟩

theorem not_refused_error {e : Error} (h : e.isValidation = false) :
    ¬ Refused (.error e : Checked α) := by
  rw [refused_error_iff, h]
  exact Bool.false_ne_true

theorem refused_map_iff {r : Checked α} (g : α → β) : Refused (r.map g) ↔ Refused r := by
  cases r with
  | error e => exact refused_error_iff.trans refused_error_iff.symm
  | ok a => exact ⟨nofun, nofun⟩

/-- Of two steps without refusals neither refuses the whole. -/
theorem not_refused_bind {r : Checked α} {f : α → Checked β} (hr : ¬ Refused r)
    (hf : ∀ a, ¬ Refused (f a)) : ¬ Refused (r >>= f) := by
  cases r with
  | error e => exact fun h => hr (refused_error_iff.mpr (refused_error_iff.mp h))
  | ok a => exact hf a

/-! ## Properties of computations -/

namespace Session

/-- The requests that a computation adds, and its outcome, are related in every world. -/
def Ensures (x : Session σ α) (Q : Checked α → List Request → Prop) : Prop :=
  ∀ w, ∃ new, (x.runIn w).2.sent = w.sent ++ new ∧ Q (x.runIn w).1 new

theorem Ensures.mono {x : Session σ α} {Q R : Checked α → List Request → Prop} (h : x.Ensures Q)
    (hQR : ∀ r new, Q r new → R r new) : x.Ensures R := by
  intro w
  obtain ⟨new, hsent, hQ⟩ := h w
  exact ⟨new, hsent, hQR _ _ hQ⟩

/-- A local check sends nothing. -/
theorem Ensures.lift {x : Checked α} {Q : Checked α → List Request → Prop} (h : Q x []) :
    (Session.lift x : Session σ α).Ensures Q := by
  intro w
  exact ⟨[], (List.append_nil _).symm, h⟩

theorem Ensures.throw {e : Error} {Q : Checked α → List Request → Prop} (h : Q (.error e) []) :
    (throw e : Session σ α).Ensures Q := by
  intro w
  exact ⟨[], (List.append_nil _).symm, h⟩

/-- **One step and the rest.** A step that fails ends the computation with the requests that it has
added; after any other the requests of the rest follow. -/
theorem Ensures.bind {x : Session σ α} {f : α → Session σ β} {Q : Checked α → List Request → Prop}
    {R S : Checked β → List Request → Prop} (hx : x.Ensures Q) (hf : ∀ a, (f a).Ensures R)
    (herror : ∀ e new, Q (.error e) new → S (.error e) new)
    (hok : ∀ a new r more, Q (.ok a) new → R r more → S r (new ++ more)) :
    (x >>= f).Ensures S := by
  intro w
  obtain ⟨new, hsent, hQ⟩ := hx w
  rw [runIn_bind]
  rcases hrun : x.runIn w with ⟨_ | a, w'⟩
  · rw [hrun] at hsent hQ
    exact ⟨new, hsent, herror _ _ hQ⟩
  · -- the rest starts from the requests that the step has left
    rw [hrun] at hsent hQ
    obtain ⟨more, hmore, hR⟩ := hf a w'
    refine ⟨new ++ more, ?_, hok _ _ _ _ hQ hR⟩
    show ((f a).runIn w').2.sent = _
    rw [hmore, hsent, List.append_assoc]

/-- A pure step afterwards changes the outcome alone. -/
theorem Ensures.map {x : Session σ α} {g : α → β} {Q : Checked α → List Request → Prop}
    {R : Checked β → List Request → Prop} (h : x.Ensures Q)
    (hQR : ∀ r new, Q r new → R (r.map g) new) : (g <$> x).Ensures R := by
  intro w
  obtain ⟨new, hsent, hQ⟩ := h w
  rw [runIn_map]
  exact ⟨new, hsent, hQR _ _ hQ⟩

/-- The requests that a computation adds. -/
def newRequests (x : Session σ α) (w : World σ) : List Request :=
  (x.runIn w).2.sent.drop w.sent.length

theorem newRequests_eq {x : Session σ α} {w : World σ} {new : List Request}
    (h : (x.runIn w).2.sent = w.sent ++ new) : x.newRequests w = new := by
  unfold newRequests
  rw [h, List.drop_left]

theorem newRequests_map (g : α → β) (x : Session σ α) (w : World σ) :
    (g <$> x).newRequests w = x.newRequests w := by
  unfold newRequests
  rw [runIn_map]

theorem Ensures.newRequests {x : Session σ α} {Q : Checked α → List Request → Prop}
    (h : x.Ensures Q) (w : World σ) : Q (x.runIn w).1 (x.newRequests w) := by
  obtain ⟨new, hsent, hQ⟩ := h w
  rw [newRequests_eq hsent]
  exact hQ

/-! ### Requests of one sort -/

section SendsOnly

variable {P : Request → Prop}

/-- Every request that is added has a property. -/
def SendsOnly (P : Request → Prop) (x : Session σ α) : Prop := x.Ensures fun _ new => ∀ q ∈ new, P q

theorem sendsOnly_lift (x : Checked α) : (Session.lift x : Session σ α).SendsOnly P :=
  Ensures.lift nofun

theorem sendsOnly_throw (e : Error) : (throw e : Session σ α).SendsOnly P := Ensures.throw nofun

/-- What stands after a failure is never reached. -/
theorem sendsOnly_throw_bind (e : Error) (f : α → Session σ β) :
    ((throw e : Session σ α) >>= f).SendsOnly P := sendsOnly_throw e

theorem sendsOnly_pure (a : α) : (pure a : Session σ α).SendsOnly P := sendsOnly_lift (.ok a)

theorem SendsOnly.bind {x : Session σ α} {f : α → Session σ β} (hx : x.SendsOnly P)
    (hf : ∀ a, (f a).SendsOnly P) : (x >>= f).SendsOnly P := by
  refine Ensures.bind hx hf (fun _ _ h => h) fun _ new _ more hnew hmore q hq => ?_
  rcases List.mem_append.mp hq with hq | hq
  · exact hnew q hq
  · exact hmore q hq

theorem SendsOnly.map {x : Session σ α} (g : α → β) (hx : x.SendsOnly P) :
    (g <$> x).SendsOnly P := Ensures.map hx fun _ _ h => h

/-- What follows a local check may rely on the check. -/
theorem sendsOnly_lift_bind {x : Checked α} {f : α → Session σ β}
    (hf : ∀ a, x = .ok a → (f a).SendsOnly P) : (Session.lift x >>= f).SendsOnly P := by
  cases x with
  | error e => exact sendsOnly_throw e
  | ok a => exact hf a rfl

end SendsOnly

/-- Nothing but reads is sent. -/
def ReadsOnly (x : Session σ α) : Prop := x.Ensures fun _ new => ∀ q ∈ new, q.method = .get

theorem readsOnly_lift (x : Checked α) : (Session.lift x : Session σ α).ReadsOnly :=
  sendsOnly_lift x

theorem readsOnly_throw (e : Error) : (throw e : Session σ α).ReadsOnly := sendsOnly_throw e

theorem readsOnly_throw_bind (e : Error) (f : α → Session σ β) :
    ((throw e : Session σ α) >>= f).ReadsOnly := sendsOnly_throw_bind e f

/-! ### Refusals -/

/-- No outcome is a refusal. -/
def NeverRefuses (x : Session σ α) : Prop := x.Ensures fun r _ => ¬ Refused r

theorem neverRefuses_lift {x : Checked α} (h : ¬ Refused x) :
    (Session.lift x : Session σ α).NeverRefuses :=
  Ensures.lift h

theorem NeverRefuses.bind {x : Session σ α} {f : α → Session σ β} (hx : x.NeverRefuses)
    (hf : ∀ a, (f a).NeverRefuses) : (x >>= f).NeverRefuses := by
  refine Ensures.bind hx hf (fun e _ h he => h ?_) fun _ _ _ _ _ h => h
  exact refused_error_iff.mpr (refused_error_iff.mp he)

/-- Where a local check fails, nothing but reads has been sent. -/
def RefusesFirst (x : Session σ α) : Prop :=
  x.Ensures fun r new => Refused r → ∀ q ∈ new, q.method = .get

theorem ReadsOnly.refusesFirst {x : Session σ α} (h : x.ReadsOnly) : x.RefusesFirst :=
  Ensures.mono h fun _ _ hnew _ => hnew

theorem NeverRefuses.refusesFirst {x : Session σ α} (h : x.NeverRefuses) : x.RefusesFirst :=
  Ensures.mono h fun _ _ hnever hrefused => absurd hrefused hnever

theorem RefusesFirst.map {x : Session σ α} (g : α → β) (h : x.RefusesFirst) :
    (g <$> x).RefusesFirst :=
  Ensures.map h fun _ _ hnew hrefused => hnew ((refused_map_iff g).mp hrefused)

/-- After reads, what refuses first still does. -/
theorem ReadsOnly.bind_refusesFirst {x : Session σ α} {f : α → Session σ β} (hx : x.ReadsOnly)
    (hf : ∀ a, (f a).RefusesFirst) : (x >>= f).RefusesFirst := by
  refine Ensures.bind hx hf (fun _ _ h _ => h) fun _ new _ more hnew hmore hrefused q hq => ?_
  rcases List.mem_append.mp hq with hq | hq
  · exact hnew q hq
  · exact hmore hrefused q hq

end Session

/-! ## Answers are no refusals -/

/-- A request that gets no answer fails with a failure of the transport. -/
def Transport.KeepsContract (t : Transport σ) : Prop :=
  ∀ r server e, (t.exchange r server).1 = .error e → e.isTransport = true

theorem not_refused_of_isTransport {e : Error} (h : e.isTransport = true) :
    ¬ Refused (.error e : Checked α) := by
  cases e <;> first | exact not_refused_error rfl | cases h

theorem Response.not_refused_check (r : Response) (target : String) :
    ¬ Refused (r.check target) := by
  unfold check
  split
  · exact nofun
  · split
    · exact not_refused_error rfl
    · exact not_refused_error rfl

theorem not_refused_decodeText (context : String) (body : Text.Octets) :
    ¬ Refused (decodeText context body) := by
  unfold decodeText
  split
  · exact nofun
  · exact not_refused_error rfl

theorem Object.not_refused_decode (schema : Schema) (context : String) (body : Text.Octets) :
    ¬ Refused (decode schema context body) := by
  unfold decode
  split
  · exact nofun
  · exact not_refused_error rfl

theorem Link.not_refused_outcome {link : Link σ} (hlink : link.transport.KeepsContract)
    (r : Request) (target : String) (w : World σ) : ¬ Refused (link.outcome r target w) := by
  unfold outcome
  cases hanswer : link.answer r w with
  | error e => exact not_refused_of_isTransport (hlink _ _ _ hanswer)
  | ok response => exact response.not_refused_check target

/-! ## Verbs -/

namespace Link

variable (link : Link σ)

section SendsOnly

variable {link} {P : Request → Prop}

/-- An exchange sends one request, or none in a closed session. -/
theorem sendsOnly_exchange {operation : Operation} {object : Option Snapshot} {reference : String}
    {query : Query} (h : P (link.endpoint.request operation object reference query))
    (target : String) :
    (link.exchange operation object reference query target).SendsOnly P := by
  intro w
  by_cases hphase : w.phase = .closed
  · rw [runIn_exchange_of_closed link operation object reference query target hphase]
    exact ⟨[], (List.append_nil _).symm, nofun⟩
  · rw [runIn_exchange_of_open link operation object reference query target hphase]
    refine ⟨[link.endpoint.request operation object reference query], rfl, fun q hq => ?_⟩
    rw [List.mem_singleton.mp hq]
    exact h

theorem sendsOnly_create {o : Object} (h : P (link.endpoint.creation o)) :
    (link.create o).SendsOnly P :=
  (sendsOnly_exchange h _).bind fun _ => Session.sendsOnly_lift _

theorem sendsOnly_read {template : Object} {reference : String} {query : Query}
    (h : reference ≠ "" → P (link.endpoint.reading template reference query)) :
    (link.read template reference query).SendsOnly P := by
  unfold read
  split
  · exact Session.sendsOnly_throw_bind _ _
  · rename_i href
    exact (sendsOnly_exchange (h href) _).bind fun _ =>
      (Session.sendsOnly_lift _).bind fun _ => Session.sendsOnly_pure _

theorem sendsOnly_list {pattern : Object} {query : Query}
    (h : P (link.endpoint.request .get (some pattern.snapshot) "" query)) :
    (link.list pattern query).SendsOnly P :=
  (sendsOnly_exchange h _).bind fun _ => Session.sendsOnly_lift _

theorem sendsOnly_update {o : Object} {reference : String}
    (h : reference ≠ "" → P (link.endpoint.change o reference)) :
    (link.update o reference).SendsOnly P := by
  unfold update
  split
  · exact Session.sendsOnly_throw_bind _ _
  · rename_i href
    exact (sendsOnly_exchange (h href) _).bind fun _ => Session.sendsOnly_lift _

theorem sendsOnly_delete {reference : String}
    (h : P (link.endpoint.request .delete none reference {})) :
    (link.delete reference).SendsOnly P := by
  unfold delete
  split
  · exact Session.sendsOnly_throw_bind _ _
  · exact (sendsOnly_exchange h _).bind fun _ => Session.sendsOnly_lift _

end SendsOnly

variable {link} in
theorem neverRefuses_exchange (hlink : link.transport.KeepsContract) (operation : Operation)
    (object : Option Snapshot) (reference : String) (query : Query) (target : String) :
    (link.exchange operation object reference query target).NeverRefuses := by
  intro w
  by_cases h : w.phase = .closed
  · rw [runIn_exchange_of_closed link operation object reference query target h]
    exact ⟨[], (List.append_nil _).symm, not_refused_error rfl⟩
  · rw [runIn_exchange_of_open link operation object reference query target h]
    exact ⟨[link.endpoint.request operation object reference query], rfl,
      not_refused_outcome hlink _ target w⟩

variable {link} (hlink : link.transport.KeepsContract)

include hlink in
theorem refusesFirst_update (o : Object) (reference : String) :
    (link.update o reference).RefusesFirst := by
  unfold update
  split
  · exact (Session.readsOnly_throw_bind _ _).refusesFirst
  · exact ((neverRefuses_exchange hlink _ _ _ _ _).bind fun _ =>
      Session.neverRefuses_lift (not_refused_decodeText _ _)).refusesFirst

include hlink in
theorem refusesFirst_delete (reference : String) : (link.delete reference).RefusesFirst := by
  unfold delete
  split
  · exact (Session.readsOnly_throw_bind _ _).refusesFirst
  · exact ((neverRefuses_exchange hlink _ _ _ _ _).bind fun _ =>
      Session.neverRefuses_lift (not_refused_decodeText _ _)).refusesFirst

end Link
end GridClient
