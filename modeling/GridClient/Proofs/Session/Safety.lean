import GridClient.Proofs.Checked
import GridClient.Proofs.Session.Exchange
import GridClient.Session.Generic
import GridClient.Session.Login

/-!
# `GridClient.Proofs.Session.Safety` — safety of whole sessions

`Call.Step` says once all that a call can do: it is refused by its own check, or finds the session
closed, or sends one request. What a single call guarantees is read off its three cases, and what
holds along a run follows by induction on the calls.

## Contents
- `Call.check`, `Call.isLogout`: what a call checks by itself, and which calls end a session.
- `Call.Step`, `Call.step_run`: the outcomes of a call.
- `Call.Safe`, `Call.safe`: what every call guarantees.
- `Link.performAll`: a run of calls; `performAll_phase` and `performAll_of_closed`, its laws.
- `Link.session_safety`: all of it from the login on.
-/

namespace GridClient

open Text (Octets)

variable {σ α β : Type}

/-! ## Local steps -/

namespace Session

theorem lift_ok (a : α) : (lift (.ok a) : Session σ α) = pure a := rfl

theorem map_lift (f : α → β) (x : Checked α) : f <$> (lift x : Session σ α) = lift (x.map f) := by
  cases x <;> rfl

end Session

namespace Link

variable (link : Link σ)

/-- One request with a pure step on its answer. -/
theorem runIn_send_lift (q : Request) (step : Response → Checked β) (w : World σ) :
    (link.send q >>= fun response => Session.lift (step response)).runIn w
      = (link.answer q w >>= step, link.after q w) := by
  rw [Session.runIn_bind, runIn_send]
  unfold answer after
  cases (link.transport.exchange q w.server).1 <;> rfl

/-- The request that ends a session. -/
def farewell : Request :=
  link.endpoint.request .create (some (Snapshot.ofType "logout")) "" {}

theorem logout_eq : link.logout = Session.ensureOpen >>= fun _ => Session.enter .closed >>= fun _ =>
    link.send link.farewell >>= fun response =>
      Session.lift (discard (response.check "logout")) := by
  simp only [logout, farewell, bind_pure_comp, Session.map_lift]
  rfl

theorem runIn_logout_of_closed {w : World σ} (h : w.phase = .closed) :
    link.logout.runIn w = (.error .sessionClosed, w) := by
  rw [logout_eq, Session.runIn_bind, Session.runIn_ensureOpen_of_closed h]

/-- The phase is entered before the request is sent, so the answer has no say in it. -/
theorem runIn_logout_of_open {w : World σ} (h : w.phase ≠ .closed) :
    link.logout.runIn w = (discard (link.outcome link.farewell "logout" w),
      { link.after link.farewell w with phase := .closed }) := by
  rw [logout_eq, Session.runIn_bind, Session.runIn_ensureOpen_of_open h]
  show Session.runIn (Session.enter .closed >>= _) w = _
  rw [Session.runIn_bind, Session.runIn_enter]
  show Session.runIn (link.send link.farewell >>= _) { w with phase := .closed } = _
  rw [runIn_send_lift]
  unfold outcome answer after
  cases (link.transport.exchange link.farewell w.server).1 <;> rfl

end Link

/-! ## The outcomes of a call -/

namespace Call

/-- What a call checks before it looks at the session: that a reference is there, that it leads to a
registered type, and that the object has a JSON object for its form. -/
def check : Call α → Checked Unit
  | create c a => discard (c.snapshot a)
  | read c template reference _ =>
    if reference = "" then .error (.validation (.referenceToRead (c.objectType template)))
    else discard (c.snapshot template)
  | list c pattern _ => discard (c.snapshot pattern)
  | update c a reference =>
    if reference = "" then .error (.validation (.referenceToUpdate (c.objectType a)))
    else discard (c.snapshot a)
  | delete reference =>
    if reference = "" then .error (.validation .referenceToDelete) else .ok ()
  | request _ _ _ _ => .ok ()
  | readNamed registry reference _ => discard (registry.entryFor reference)
  | logout => .ok ()

def isLogout : Call α → Bool
  | logout => true
  | _ => false

/-- The phase that a call leaves when it finds the session in another. -/
def phaseAfter (call : Call α) (phase : Phase) : Phase := if call.isLogout then .closed else phase

/-- All that a call can do: what it comes to, and the world that it leaves. -/
inductive Step (link : Link σ) (w : World σ) (call : Call α) : Checked (Answer α) × World σ → Prop
  /-- Its own check fails. -/
  | refused {e : Error} (hcheck : call.check = .error e) : Step link w call (.error e, w)
  | closed (hcheck : call.check = .ok ()) (hphase : w.phase = .closed) :
    Step link w call (.error .sessionClosed, w)
  /-- One request, and a pure step on what its answer yields. -/
  | sent (hcheck : call.check = .ok ()) (hphase : w.phase ≠ .closed) (q : Request)
      (target : String) (step : Octets → Checked (Answer α)) :
    Step link w call (link.outcome q target w >>= step,
      { link.after q w with phase := call.phaseAfter w.phase })

variable {link : Link σ} {w : World σ} {call : Call α}

/-- A call that is an exchange with a pure step after it, once its check has passed. -/
theorem Step.of_exchange (hcheck : call.check = .ok ()) (hlogout : call.isLogout = false)
    (operation : Operation) (object : Option Snapshot) (reference : String) (query : Query)
    (target : String) (step : Octets → Checked (Answer α)) :
    Step link w call ((link.exchange operation object reference query target
      >>= fun body => Session.lift (step body)).runIn w) := by
  by_cases hphase : w.phase = .closed
  · rw [Session.runIn_bind, link.runIn_exchange_of_closed operation object reference query target
      hphase]
    exact .closed hcheck hphase
  · -- the one request of an open session; since this is no logout, the phase stays
    rw [link.runIn_exchange_lift operation object reference query target step hphase]
    have hsame : call.phaseAfter w.phase = w.phase := by simp [phaseAfter, hlogout]
    have hsent : Step link w call (link.outcome _ target w >>= step,
        { link.after _ w with phase := call.phaseAfter w.phase }) :=
      .sent hcheck hphase (link.endpoint.request operation object reference query) target step
    rw [hsame] at hsent
    exact hsent

/-- A call whose check is the first step that it takes. -/
theorem Step.of_lift {γ : Type} {x : Checked γ} (hcheck : call.check = discard x)
    {rest : γ → Session σ (Answer α)}
    (hrest : ∀ c, call.check = .ok () → Step link w call ((rest c).runIn w)) :
    Step link w call ((Session.lift x >>= rest).runIn w) := by
  cases x with
  | error e =>
      rw [Session.runIn_lift_bind_error rfl]
      exact .refused hcheck
  | ok c =>
      rw [Session.runIn_lift_bind rfl]
      exact hrest c hcheck

/-- A call that needs a reference. -/
theorem Step.of_reference {reference : String} {e : Error} {rest : Session σ (Answer α)}
    (hempty : reference = "" → call.check = .error e)
    (hrest : reference ≠ "" → Step link w call (rest.runIn w)) :
    Step link w call ((if reference = "" then throw e else rest).runIn w) := by
  by_cases href : reference = ""
  · rw [if_pos href]
    exact .refused (hempty href)
  · rw [if_neg href]
    exact hrest href

/-- **Every call takes one of these steps.** -/
theorem step_run (link : Link σ) (w : World σ) (call : Call α) :
    Step link w call ((call.run link).runIn w) := by
  cases call with
  | create c a =>
      have hrun : run link (.create c a) = Session.lift (c.snapshot a) >>= fun snapshot =>
          link.exchange .create (some snapshot) "" {} (c.objectType a) >>= fun body =>
            Session.lift ((decodeText "reference returned by create" body).map .reference) := by
        simp only [run, Link.createAs, map_bind, Session.map_lift]
      rw [hrun]
      exact .of_lift rfl fun snapshot hcheck => .of_exchange hcheck rfl ..
  | read c template reference query =>
      have hrun : run link (.read c template reference query)
          = if reference = "" then throw (.validation (.referenceToRead (c.objectType template)))
            else Session.lift (c.snapshot template) >>= fun snapshot =>
              link.exchange .get (some snapshot) reference query reference >>= fun body =>
                Session.lift (((c.decode (c.objectType template) body).map
                  (c.withReference · reference)).map .object) := by
        by_cases href : reference = ""
        · simp only [run, Link.readAs, if_pos href]
          rfl
        · simp only [run, Link.readAs, if_neg href, map_bind, bind_pure_comp, Session.map_lift]
      rw [hrun]
      refine .of_reference (fun href => if_pos href) fun href => ?_
      have hcheck : check (.read c template reference query) = discard (c.snapshot template) :=
        if_neg href
      exact .of_lift hcheck fun snapshot hcheck => .of_exchange hcheck rfl ..
  | list c pattern query =>
      have hrun : run link (.list c pattern query)
          = Session.lift (c.snapshot pattern) >>= fun snapshot =>
            link.exchange .get (some snapshot) "" query (c.objectType pattern) >>= fun body =>
              Session.lift
                ((c.decodeList ("list of " ++ c.objectType pattern) body).map .objects) := by
        simp only [run, Link.listAs, map_bind, Session.map_lift]
      rw [hrun]
      exact .of_lift rfl fun snapshot hcheck => .of_exchange hcheck rfl ..
  | update c a reference =>
      have hrun : run link (.update c a reference)
          = if reference = "" then throw (.validation (.referenceToUpdate (c.objectType a)))
            else Session.lift (c.snapshot a) >>= fun snapshot =>
              link.exchange .update (some snapshot) reference {} reference >>= fun body =>
                Session.lift
                  ((decodeText "reference returned by update" body).map .reference) := by
        by_cases href : reference = ""
        · simp only [run, Link.updateAs, if_pos href]
          rfl
        · simp only [run, Link.updateAs, if_neg href, map_bind, Session.map_lift]
      rw [hrun]
      refine .of_reference (fun href => if_pos href) fun href => ?_
      have hcheck : check (.update c a reference) = discard (c.snapshot a) := if_neg href
      exact .of_lift hcheck fun snapshot hcheck => .of_exchange hcheck rfl ..
  | delete reference =>
      have hrun : run link (.delete reference : Call α)
          = if reference = "" then throw (.validation .referenceToDelete)
            else link.exchange .delete none reference {} reference >>= fun body =>
              Session.lift
                ((decodeText "reference returned by delete" body).map .reference) := by
        by_cases href : reference = ""
        · simp only [run, Link.delete, if_pos href]
          rfl
        · simp only [run, Link.delete, if_neg href, map_bind, Session.map_lift]
      rw [hrun]
      refine .of_reference (fun href => if_pos href) fun href => ?_
      have hcheck : check (.delete reference : Call α) = .ok () := if_neg href
      exact .of_exchange hcheck rfl ..
  | request operation object reference query =>
      have hrun : run link (.request operation object reference query : Call α)
          = link.exchange operation object reference query
              (if reference = "" then (object.map Snapshot.objectType).getD "" else reference)
            >>= fun body => Session.lift (.ok (.body body)) := by
        simp only [run, Link.request, Session.lift_ok, bind_pure_comp]
      rw [hrun]
      exact .of_exchange rfl rfl ..
  | readNamed registry reference query =>
      have hrun : run link (.readNamed registry reference query)
          = Session.lift (registry.entryFor reference) >>= fun entry =>
            link.exchange .get (some entry.snapshot) reference query reference >>= fun body =>
              Session.lift ((entry.decode body).map .object) := by
        simp only [run, Link.readNamed, map_bind, Session.map_lift]
      rw [hrun]
      exact .of_lift rfl fun entry hcheck => .of_exchange hcheck rfl ..
  | logout =>
      by_cases hphase : w.phase = .closed
      · have hclosed : (run link (.logout : Call α)).runIn w = (.error .sessionClosed, w) := by
          rw [run, Session.runIn_map, link.runIn_logout_of_closed hphase]
          rfl
        rw [hclosed]
        exact .closed rfl hphase
      · have hsent : (run link (.logout : Call α)).runIn w
            = (link.outcome link.farewell "logout" w >>= fun _ => .ok .done,
                { link.after link.farewell w with phase := .closed }) := by
          rw [run, Session.runIn_map, link.runIn_logout_of_open hphase]
          cases link.outcome link.farewell "logout" w <;> rfl
        rw [hsent]
        exact .sent rfl hphase link.farewell "logout" fun _ => .ok .done

/-! ## What every call guarantees -/

theorem isLogout_of_check_error {e : Error} (h : call.check = .error e) :
    call.isLogout = false := by
  cases call with
  | logout => cases h
  | _ => rfl

@[simp] theorem phaseAfter_closed (call : Call α) : call.phaseAfter .closed = .closed := by
  unfold phaseAfter
  split <;> rfl

/-- What is guaranteed of a call that finds the world `w`. -/
structure Safe (link : Link σ) (w : World σ) (call : Call α) : Prop where
  /-- It sends one request at most, and when that is not delivered, the reason is its outcome. -/
  sends_once : ∃ new : List Request,
    ((call.run link).runIn w).2.sent = w.sent ++ new ∧ new.length ≤ 1
      ∧ ∀ q ∈ new, ∀ e, link.answer q w = .error e → ((call.run link).runIn w).1 = .error e
  /-- The logout closes the session, and nothing else touches the phase. -/
  phase_eq : ((call.run link).runIn w).2.phase = call.phaseAfter w.phase
  /-- What its own check refuses goes no further. -/
  refused : ∀ e, call.check = .error e → (call.run link).runIn w = (.error e, w)
  /-- A closed session does nothing but say so. -/
  closed : call.check = .ok () → w.phase = .closed →
    (call.run link).runIn w = (.error .sessionClosed, w)

/-- **Every call is safe**, in whatever world it finds. -/
theorem safe (link : Link σ) (w : World σ) (call : Call α) : Safe link w call := by
  have hstep := step_run link w call
  generalize hrun : (call.run link).runIn w = out at hstep
  cases hstep with
  | @refused e hcheck =>
      have hphase : call.phaseAfter w.phase = w.phase := by
        simp [phaseAfter, isLogout_of_check_error hcheck]
      constructor
      · exact ⟨[], by simp [hrun]⟩
      · rw [hrun, hphase]
      · intro e' he'
        rw [hcheck] at he'
        cases he'
        exact hrun
      · intro hok
        rw [hcheck] at hok
        cases hok
  | closed hcheck hphase =>
      constructor
      · exact ⟨[], by simp [hrun]⟩
      · rw [hrun, hphase, phaseAfter_closed]
      · intro e he
        rw [hcheck] at he
        cases he
      · intro _ _
        exact hrun
  | sent hcheck hphase q target step =>
      constructor
      · refine ⟨[q], by simp [hrun], by simp, ?_⟩
        intro q' hq' e he
        cases List.mem_singleton.mp hq'
        rw [hrun, Link.outcome_of_error he target]
        rfl
      · rw [hrun]
      · intro e he
        rw [hcheck] at he
        cases he
      · intro _ hclosed
        exact absurd hclosed hphase

end Call

/-! ## Runs -/

namespace Link

variable (link : Link σ)

/-- The world after a call; every call of a run may have objects of its own type. -/
def perform (w : World σ) (call : (α : Type) × Call α) : World σ :=
  ((call.2.run link).runIn w).2

/-- The world after a run of calls. -/
def performAll (calls : List ((α : Type) × Call α)) (w : World σ) : World σ :=
  calls.foldl link.perform w

@[simp] theorem performAll_cons (call : (α : Type) × Call α) (calls : List ((α : Type) × Call α))
    (w : World σ) :
    link.performAll (call :: calls) w = link.performAll calls (link.perform w call) := rfl

/-- **A run closes the session at its first logout**, and leaves the phase alone without one. -/
theorem performAll_phase (calls : List ((α : Type) × Call α)) (w : World σ) :
    (link.performAll calls w).phase
      = if calls.any (·.2.isLogout) then .closed else w.phase := by
  -- the induction is over every world, as the rest of a run starts where its first call ends
  induction calls generalizing w with
  | nil => rfl
  | cons call calls ih =>
      have hphase : (link.perform w call).phase = call.2.phaseAfter w.phase :=
        (call.2.safe link w).phase_eq
      rw [performAll_cons, ih, hphase, List.any_cons]
      unfold Call.phaseAfter
      cases call.2.isLogout with
      | true =>
          rw [Bool.true_or, if_pos rfl]
          exact ite_self _
      | false => rw [Bool.false_or, if_neg Bool.false_ne_true]

/-- **A closed session stays as it is**, whatever is called. -/
theorem performAll_of_closed (calls : List ((α : Type) × Call α)) {w : World σ}
    (h : w.phase = .closed) : link.performAll calls w = w := by
  induction calls with
  | nil => rfl
  | cons call calls ih =>
      -- a closed session is left by no call, so the rest starts in the same world
      have hsame : link.perform w call = w := by
        have hsafe := call.2.safe link w
        unfold perform
        cases hcheck : call.2.check with
        | error e => rw [hsafe.refused e hcheck]
        | ok => rw [hsafe.closed hcheck h]
      rw [performAll_cons, hsame, ih]

/-! ## The login -/

/-- The request that reads the account's own profile. -/
def profileRequest : Request :=
  link.endpoint.request .get (some { objectType := "userprofile", returnFields := ["name"] }) "" {}

theorem checkLogin_userProfile : link.checkLogin .userProfile
    = link.exchange .get (some { objectType := "userprofile", returnFields := ["name"] }) "" {}
        "userprofile" >>= fun _ => Session.lift (.ok ()) := rfl

theorem runIn_checkLogin (server : σ) :
    (link.checkLogin .userProfile).runIn (World.start server)
      = (discard (link.outcome link.profileRequest "userprofile" (World.start server)),
          link.after link.profileRequest (World.start server)) := by
  have hopen : (World.start server).phase ≠ .closed := fun h => nomatch h
  rw [checkLogin_userProfile, runIn_exchange_lift _ _ _ _ _ _ _ hopen]
  change (link.outcome link.profileRequest "userprofile" (World.start server) >>= _, _) = _
  cases link.outcome link.profileRequest "userprofile" (World.start server) <;> rfl

theorem connect_of_error {how : Login} {server : σ} {e : Error} {w : World σ}
    (h : (link.checkLogin how).runIn (World.start server) = (.error e, w)) :
    link.connect how server = (.error e, w) := by
  unfold connect login
  rw [Session.runIn_bind, h]

theorem connect_of_ok {how : Login} {server : σ} {w : World σ}
    (h : (link.checkLogin how).runIn (World.start server) = (.ok (), w)) :
    link.connect how server = (.ok (), { w with phase := .active }) := by
  unfold connect login
  rw [Session.runIn_bind, h]
  rfl

/-- What is guaranteed of a login to a server's side. -/
structure SafeLogin (how : Login) (server : σ) : Prop where
  /-- It sends one request at most, and when that is not delivered, the reason is its outcome. -/
  sends_once : (link.connect how server).2.sent.length ≤ 1
    ∧ ∀ q ∈ (link.connect how server).2.sent, ∀ e, link.answer q (World.start server) = .error e →
      (link.connect how server).1 = .error e
  /-- There is a session exactly when the check succeeds. -/
  outcome_eq : (link.connect how server).1
    = ((link.checkLogin how).runIn (World.start server)).1
  /-- Without a session the phase has not moved. -/
  failed : ∀ e, (link.connect how server).1 = .error e →
    (link.connect how server).2.phase = .unauthenticated
  succeeded : (link.connect how server).1 = .ok () → (link.connect how server).2.phase = .active

/-- The check of a login sends one request at most, and does not move the phase. -/
theorem checkLogin_sends_once (how : Login) (server : σ) :
    ∃ new : List Request, new.length ≤ 1
      ∧ ((link.checkLogin how).runIn (World.start server)).2.sent = new
      ∧ ((link.checkLogin how).runIn (World.start server)).2.phase = .unauthenticated
      ∧ ∀ q ∈ new, ∀ e, link.answer q (World.start server) = .error e →
        ((link.checkLogin how).runIn (World.start server)).1 = .error e := by
  cases how with
  | skip => exact ⟨[], Nat.zero_le 1, rfl, rfl, fun q hq => absurd hq List.not_mem_nil⟩
  | userProfile =>
      rw [link.runIn_checkLogin]
      refine ⟨[link.profileRequest], Nat.le_refl 1, rfl, rfl, fun q hq e he => ?_⟩
      cases List.mem_singleton.mp hq
      rw [link.outcome_of_error he]
      rfl

/-- **Every login is safe.** -/
theorem safeLogin (how : Login) (server : σ) : link.SafeLogin how server := by
  obtain ⟨new, hlength, hsent, hphase, hfailed⟩ := link.checkLogin_sends_once how server
  -- what follows the check sends nothing, and runs only if the check succeeds
  generalize hcheck : (link.checkLogin how).runIn (World.start server) = out at *
  obtain ⟨outcome, w⟩ := out
  cases outcome with
  | error e =>
      have hconnect := link.connect_of_error hcheck
      constructor
      · rw [hconnect]
        exact ⟨hsent ▸ hlength, fun q hq => hfailed q (hsent ▸ hq)⟩
      · rw [hconnect, hcheck]
      · intro _ _
        rw [hconnect]
        exact hphase
      · intro hok
        rw [hconnect] at hok
        cases hok
  | ok =>
      have hconnect := link.connect_of_ok hcheck
      constructor
      · rw [hconnect]
        exact ⟨hsent ▸ hlength, fun q hq => hfailed q (hsent ▸ hq)⟩
      · rw [hconnect, hcheck]
      · intro e he
        rw [hconnect] at he
        cases he
      · intro _
        rw [hconnect]

/-- **Sessions are safe from the login on.** The login and every call of every run send one request
at most and return what kept it from the server. The session is active once the login has
succeeded and closed from the first logout on, whatever is answered to it; then no call sends
anything, and each one fails, by its own check or because the session is closed. -/
theorem session_safety (how : Login) (server : σ) :
    link.SafeLogin how server
      ∧ ((link.connect how server).1 = .ok () →
        ∀ calls : List ((α : Type) × Call α),
          (link.performAll calls (link.connect how server).2).phase
              = (if calls.any (·.2.isLogout) then .closed else .active)
            ∧ (∀ {α : Type} (call : Call α),
              call.Safe link (link.performAll calls (link.connect how server).2))
            ∧ (calls.any (·.2.isLogout) = true → ∀ more : List ((α : Type) × Call α),
              link.performAll more (link.performAll calls (link.connect how server).2)
                = link.performAll calls (link.connect how server).2)) := by
  have hlogin := link.safeLogin how server
  refine ⟨hlogin, fun hok calls => ?_⟩
  have hphase : (link.performAll calls (link.connect how server).2).phase
      = (if calls.any (·.2.isLogout) then .closed else .active) := by
    rw [link.performAll_phase, hlogin.succeeded hok]
  refine ⟨hphase, fun call => call.safe link _, fun hlogout more => ?_⟩
  exact link.performAll_of_closed more (hphase.trans (if_pos hlogout))

/-- A logout that is not answered closes the session all the same. -/
theorem session_safety_of_timeout :
    (scripted.connect .skip [.error (.timeout "no answer")]).1 = .ok ()
      ∧ (scripted.performAll [⟨Object, .logout⟩]
          (scripted.connect .skip [.error (.timeout "no answer")]).2).phase = .closed :=
  ⟨rfl, ((scripted.session_safety .skip [.error (.timeout "no answer")]).2 rfl
    [⟨Object, .logout⟩]).1⟩

end Link
end GridClient
