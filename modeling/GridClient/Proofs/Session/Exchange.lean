import GridClient.Session.Verbs
import GridClient.Transport.Scripted

/-!
# `GridClient.Proofs.Session.Exchange` — what one exchange does

An open session that sends a request gets an answer from the transport and goes on in the world
that the transport leaves; a closed one does neither. Every verb but the logout is an exchange
between two pure steps, so its run is one equation.

## Contents
- `Link.answer`, `Link.after`: the transport's answer to a request, and the world it leaves.
- `Link.outcome`: the body that an answer yields, or why it yields none; `outcome_of_*`, by answer.
- `Endpoint.creation`, `reading`, `change`, `deletion`: the requests of the verbs on one object.
- `runIn_create`, `runIn_read`, `runIn_update`, `runIn_delete_*`: the run of each verb, for the most
  part in an open session.
- `Link.scripted`: a link with answers known beforehand.
-/

namespace GridClient

open Text (Octets)

variable {σ : Type}

/-! ## Requests -/

namespace Endpoint

/-- The headers of every request. -/
def headers (e : Endpoint) : Headers := e.layers.foldl Headers.setAll e.baseHeaders

/-- The request that creates an object. -/
def creation (e : Endpoint) (o : Object) : Request := e.request .create (some o.snapshot) "" {}

/-- The request that reads the object with a reference. -/
def reading (e : Endpoint) (template : Object) (reference : String) (query : Query) : Request :=
  e.request .get (some template.snapshot) reference query

/-- The request that writes an object's fields to the one with a reference. -/
def change (e : Endpoint) (o : Object) (reference : String) : Request :=
  e.request .update (some o.snapshot) reference {}

/-- The request that deletes the object with a reference. -/
def deletion (e : Endpoint) (reference : String) : Request where
  method := .delete
  url := e.host.baseUrl ++ reference
  headers := e.headers
  body := none

/-- A creation goes to the collection of the object's type and carries its members. -/
theorem creation_eq (e : Endpoint) (o : Object) :
    e.creation o = { method := .post, url := e.host.baseUrl ++ o.objectType, headers := e.headers,
                     body := some (bodyOctets o.members) } := by
  simp [creation, request, headers, Operation.method, Host.url, requestBody, Object.snapshot]

/-- A read of one object goes to its reference and carries no body. -/
theorem reading_eq (e : Endpoint) (template : Object) {reference : String} (query : Query)
    (h : reference ≠ "") :
    e.reading template reference query
      = { method := .get
          url := e.host.baseUrl ++ reference
            ++ querySuffix (query.pairs template.effectiveReturnFields)
          headers := e.headers, body := none } := by
  simp [reading, request, headers, Operation.method, Host.url, requestBody, Object.snapshot, h]

/-- A change goes to the reference and carries the members of the object. -/
theorem change_eq (e : Endpoint) (o : Object) {reference : String} (h : reference ≠ "") :
    e.change o reference
      = { method := .put, url := e.host.baseUrl ++ reference, headers := e.headers,
          body := some (bodyOctets o.members) } := by
  simp [change, request, headers, Operation.method, Host.url, requestBody, Object.snapshot, h]

/-- A deletion goes to the reference and carries nothing. -/
theorem request_delete (e : Endpoint) {reference : String} (h : reference ≠ "") :
    e.request .delete none reference {} = e.deletion reference := by
  simp [deletion, request, headers, Operation.method, Host.url, requestBody, h]

end Endpoint

/-! ## Answers -/

namespace Response

theorem check_of_success (r : Response) (h : r.isSuccess = true) (target : String) :
    r.check target = .ok r.body := by
  unfold check
  rw [if_pos h]

theorem check_of_failure (r : Response) (h : r.isSuccess = false) (target : String) :
    ∃ e, r.check target = .error e := by
  unfold check
  rw [if_neg (by simp [h])]
  split
  · exact ⟨_, rfl⟩
  · exact ⟨_, rfl⟩

end Response

/-! ## One exchange -/

namespace Link

/-- What the transport answers to a request. -/
def answer (link : Link σ) (r : Request) (w : World σ) : Checked Response :=
  (link.transport.exchange r w.server).1

/-- The world after a request. -/
def after (link : Link σ) (r : Request) (w : World σ) : World σ :=
  { w with server := (link.transport.exchange r w.server).2, sent := w.sent ++ [r] }

/-- The body that the answer to a request yields, or why there is none; a failure that the server
reports names `target`. -/
def outcome (link : Link σ) (r : Request) (target : String) (w : World σ) : Checked Octets :=
  link.answer r w >>= (·.check target)

theorem outcome_of_error {link : Link σ} {r : Request} {w : World σ} {e : Error}
    (h : link.answer r w = .error e) (target : String) :
    link.outcome r target w = .error e := by
  unfold outcome
  rw [h]
  rfl

theorem outcome_of_success {link : Link σ} {r : Request} {w : World σ} {response : Response}
    (h : link.answer r w = .ok response) (hs : response.isSuccess = true) (target : String) :
    link.outcome r target w = .ok response.body := by
  unfold outcome
  rw [h]
  exact response.check_of_success hs target

theorem outcome_of_failure {link : Link σ} {r : Request} {w : World σ} {response : Response}
    (h : link.answer r w = .ok response) (hs : response.isSuccess = false) (target : String) :
    ∃ e, response.check target = .error e ∧ link.outcome r target w = .error e := by
  obtain ⟨e, he⟩ := response.check_of_failure hs target
  unfold outcome
  rw [h]
  exact ⟨e, he, he⟩

@[simp] theorem after_phase (link : Link σ) (r : Request) (w : World σ) :
    (link.after r w).phase = w.phase := rfl

@[simp] theorem after_sent (link : Link σ) (r : Request) (w : World σ) :
    (link.after r w).sent = w.sent ++ [r] := rfl

/-- **An exchange with a pure step after it.** In an open session it sends one request, and its
outcome is the step's on what the answer yields. -/
theorem runIn_exchange_lift {α : Type} (link : Link σ) (operation : Operation)
    (object : Option Snapshot) (reference : String) (query : Query) (target : String)
    (step : Octets → Checked α) {w : World σ} (h : w.phase ≠ .closed) :
    (link.exchange operation object reference query target
        >>= fun body => Session.lift (step body)).runIn w
      = (link.outcome (link.endpoint.request operation object reference query) target w >>= step,
          link.after (link.endpoint.request operation object reference query) w) := by
  rw [Session.runIn_bind, runIn_exchange_of_open link operation object reference query target h,
    runIn_send]
  unfold outcome answer
  cases (link.transport.exchange
    (link.endpoint.request operation object reference query) w.server).1 with
  | error e => rfl
  | ok response =>
    -- the answer is there, so the exchange yields exactly what its check yields
    simp only [bind, Except.bind]
    cases response.check target <;> rfl

/-! ## Verbs -/

theorem runIn_create (link : Link σ) (o : Object) {w : World σ} (h : w.phase ≠ .closed) :
    (link.create o).runIn w
      = (link.outcome (link.endpoint.creation o) o.objectType w
            >>= decodeText "reference returned by create",
          link.after (link.endpoint.creation o) w) :=
  link.runIn_exchange_lift .create (some o.snapshot) "" {} o.objectType _ h

theorem runIn_create_of_closed (link : Link σ) (o : Object) {w : World σ} (h : w.phase = .closed) :
    (link.create o).runIn w = (.error .sessionClosed, w) := by
  unfold create
  rw [Session.runIn_bind, runIn_exchange_of_closed link _ _ _ _ _ h]

/-- A read by a reference is an exchange with a pure step after it. -/
theorem read_eq_exchange (link : Link σ) (template : Object) {reference : String} (query : Query)
    (hr : reference ≠ "") :
    link.read template reference query
      = link.exchange .get (some template.snapshot) reference query reference
          >>= fun body => Session.lift
            ((Object.decode template.schema template.objectType body).map
              (·.withReference reference)) := by
  unfold read
  rw [if_neg hr]
  show (link.exchange _ _ _ _ _ >>= fun body => _) = _
  refine congrArg _ (funext fun body => ?_)
  cases Object.decode template.schema template.objectType body <;> rfl

theorem runIn_read (link : Link σ) (template : Object) {reference : String} (query : Query)
    (hr : reference ≠ "") {w : World σ} (h : w.phase ≠ .closed) :
    (link.read template reference query).runIn w
      = (link.outcome (link.endpoint.reading template reference query) reference w
            >>= fun body => (Object.decode template.schema template.objectType body).map
              (·.withReference reference),
          link.after (link.endpoint.reading template reference query) w) := by
  rw [link.read_eq_exchange template query hr]
  exact link.runIn_exchange_lift .get _ reference query reference _ h

theorem runIn_update (link : Link σ) (o : Object) {reference : String} (hr : reference ≠ "")
    {w : World σ} (h : w.phase ≠ .closed) :
    (link.update o reference).runIn w
      = (link.outcome (link.endpoint.change o reference) reference w
            >>= decodeText "reference returned by update",
          link.after (link.endpoint.change o reference) w) := by
  unfold update
  rw [if_neg hr]
  exact link.runIn_exchange_lift .update (some o.snapshot) reference {} reference _ h

theorem runIn_delete_empty (link : Link σ) (w : World σ) :
    (link.delete "").runIn w = (.error (.validation .referenceToDelete), w) := rfl

theorem runIn_delete_of_closed (link : Link σ) {w : World σ} (h : w.phase = .closed)
    {reference : String} (href : reference ≠ "") :
    (link.delete reference).runIn w = (.error .sessionClosed, w) := by
  unfold delete
  rw [if_neg href]
  show (link.exchange _ _ _ _ _ >>= _).runIn w = _
  rw [Session.runIn_bind, link.runIn_exchange_of_closed _ _ _ _ _ h]

theorem runIn_delete_of_open (link : Link σ) {w : World σ} (h : w.phase ≠ .closed)
    {reference : String} (href : reference ≠ "") :
    (link.delete reference).runIn w
      = (link.outcome (link.endpoint.deletion reference) reference w
            >>= decodeText "reference returned by delete",
          link.after (link.endpoint.deletion reference) w) := by
  unfold delete
  rw [if_neg href, ← link.endpoint.request_delete href]
  exact link.runIn_exchange_lift .delete none reference {} reference _ h

/-- A link over which each request takes the next answer of a list. -/
def scripted : Link (List (Checked Response)) where
  endpoint := { host := { host := "grid.example" }, credentials := { username := "admin" } }
  transport := .scripted

end Link
end GridClient
