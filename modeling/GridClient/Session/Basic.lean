import GridClient.Request.Endpoint
import GridClient.Response

/-!
# `GridClient.Session.Basic` — one session with a grid

A session is a computation over the phase it is in, the server's side, which the transport alone
looks at, and the requests sent so far. It ends in a value or a failure.

## Contents
- `Phase`, `World`, `Transport`, `Link`, `Session`.
- `Link.send`: one request and its answer.
- `Link.exchange`: a request of an open session and the body of a successful answer;
  `runIn_exchange_of_closed` and `runIn_exchange_of_open` say what becomes of the world.
-/

namespace GridClient

/-! ## Parts -/

/-- What a session has come to. It only ever moves forward. -/
inductive Phase
  /-- Not yet let in. -/
  | unauthenticated
  | active
  /-- Logged out for good. -/
  | closed
  deriving DecidableEq, Repr

def Phase.name : Phase → String
  | unauthenticated => "Unauthenticated"
  | active => "Active"
  | closed => "Closed"

/-- The state of a session, with a server's side of type `σ`. -/
structure World (σ : Type) where
  phase : Phase
  server : σ
  /-- The requests sent so far, the oldest first. -/
  sent : List Request

/-- A way to bring a request to the server: one answer, or none with the reason. -/
structure Transport (σ : Type) where
  name : String
  exchange : Request → σ → Checked Response × σ

/-- The two ends of a session: how requests are made and how they are brought to the server. -/
structure Link (σ : Type) where
  endpoint : Endpoint
  transport : Transport σ

/-- A computation in a session. -/
abbrev Session (σ : Type) := ExceptT Error (StateM (World σ))

variable {σ : Type}

/-- The world at the beginning of a session. -/
def World.start (server : σ) : World σ := ⟨.unauthenticated, server, []⟩

namespace Session

/-- Runs a computation. -/
def runIn {α : Type} (x : Session σ α) (w : World σ) : Except Error α × World σ := x.run w

/-- The outcome of a local check. -/
def lift {α : Type} (x : Checked α) : Session σ α := ExceptT.mk fun w => (x, w)

/-- Enters a phase. -/
def enter (phase : Phase) : Session σ Unit := ExceptT.mk fun w => (.ok (), { w with phase })

/-- Refuses to go on once the session is closed. -/
def ensureOpen : Session σ Unit :=
  ExceptT.mk fun w => (if w.phase = .closed then .error .sessionClosed else .ok (), w)

/-! ### Running -/

@[simp] theorem runIn_pure {α : Type} (a : α) (w : World σ) :
    runIn (pure a : Session σ α) w = (.ok a, w) := rfl

@[simp] theorem runIn_throw {α : Type} (e : Error) (w : World σ) :
    runIn (throw e : Session σ α) w = (.error e, w) := rfl

@[simp] theorem runIn_lift {α : Type} (x : Checked α) (w : World σ) :
    runIn (lift x : Session σ α) w = (x, w) := rfl

@[simp] theorem runIn_enter (phase : Phase) (w : World σ) :
    runIn (enter phase) w = (.ok (), { w with phase }) := rfl

theorem runIn_ensureOpen_of_closed {w : World σ} (h : w.phase = .closed) :
    runIn ensureOpen w = (.error .sessionClosed, w) := by
  show (if w.phase = .closed then _ else _, w) = _
  rw [if_pos h]

theorem runIn_ensureOpen_of_open {w : World σ} (h : w.phase ≠ .closed) :
    runIn ensureOpen w = (.ok (), w) := by
  show (if w.phase = .closed then _ else _, w) = _
  rw [if_neg h]

/-- A step that fails ends the computation; otherwise the rest runs in the world that it leaves. -/
theorem runIn_bind {α β : Type} (x : Session σ α) (f : α → Session σ β) (w : World σ) :
    runIn (x >>= f) w = match runIn x w with
      | (.ok a, w) => runIn (f a) w
      | (.error e, w) => (.error e, w) := by
  show StateT.bind x (ExceptT.bindCont f) w = _
  unfold runIn ExceptT.run StateT.bind
  rcases hx : x w with ⟨_ | _, _⟩ <;> simp [ExceptT.bindCont] <;> rfl

theorem runIn_map {α β : Type} (f : α → β) (x : Session σ α) (w : World σ) :
    runIn (f <$> x) w = ((runIn x w).1.map f, (runIn x w).2) := by
  show runIn (x >>= pure ∘ f) w = _
  rw [runIn_bind]
  rcases runIn x w with ⟨_ | _, _⟩ <;> rfl

end Session

/-! ## Exchanges -/

namespace Link

/-- Sends one request and takes its answer. -/
def send (link : Link σ) (r : Request) : Session σ Response :=
  ExceptT.mk fun w =>
    let (answer, server) := link.transport.exchange r w.server
    (answer, { w with server, sent := w.sent ++ [r] })

/-- Sends a request, unless the session is closed, and takes the body of its answer; a failure
names `target`. -/
def exchange (link : Link σ) (operation : Operation) (object : Option Snapshot)
    (reference : String) (query : Query) (target : String) : Session σ Text.Octets := do
  Session.ensureOpen
  let response ← link.send (link.endpoint.request operation object reference query)
  Session.lift (response.check target)

theorem runIn_send (link : Link σ) (r : Request) (w : World σ) :
    (link.send r).runIn w = ((link.transport.exchange r w.server).1,
      { w with server := (link.transport.exchange r w.server).2, sent := w.sent ++ [r] }) := rfl

/-- A closed session sends nothing. -/
theorem runIn_exchange_of_closed (link : Link σ) (operation : Operation) (object : Option Snapshot)
    (reference : String) (query : Query) (target : String) {w : World σ} (h : w.phase = .closed) :
    (link.exchange operation object reference query target).runIn w
      = (.error .sessionClosed, w) := by
  unfold exchange
  rw [Session.runIn_bind, Session.runIn_ensureOpen_of_closed h]

/-- An open session sends one request; what comes of it is in the answer alone. -/
theorem runIn_exchange_of_open (link : Link σ) (operation : Operation) (object : Option Snapshot)
    (reference : String) (query : Query) (target : String) {w : World σ} (h : w.phase ≠ .closed) :
    (link.exchange operation object reference query target).runIn w
      = ((link.transport.exchange
            (link.endpoint.request operation object reference query) w.server).1 >>= (·.check target),
          ((link.send (link.endpoint.request operation object reference query)).runIn w).2) := by
  unfold exchange
  rw [Session.runIn_bind, Session.runIn_ensureOpen_of_open h]
  show Session.runIn (_ >>= _) w = _
  rw [Session.runIn_bind, runIn_send]
  -- a failed transport ends the exchange; an answer is checked without a further step
  cases (link.transport.exchange
    (link.endpoint.request operation object reference query) w.server).1 <;> rfl

end Link
end GridClient
