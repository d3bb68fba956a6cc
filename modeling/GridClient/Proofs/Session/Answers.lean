import GridClient.Proofs.Session.Effects
import GridClient.Proofs.Session.Safety

/-!
# `GridClient.Proofs.Session.Answers` — what a verb makes of an answer

A verb that sends its request makes its reply of the body of a successful answer and of nothing
else. So what holds of its reply is a statement about the body: `Verb.decode` is that reply, and
`Verb.Step` says that there is no other way to one.

## Contents
- `Verb.decode`: the reply that a verb makes of a body.
- `Verb.Step`, `Verb.step_run`: the outcomes of a verb.
- `Link.Answers`: the server answers a request with success.
- `Verb.run_of_answered`, `Verb.answered_of_ok`: a verb succeeds when its one request is answered
  with a body that it can read, and in no other case.
-/

namespace GridClient

open Text (Octets)

variable {σ : Type}

/-! ## Replies -/

/-- The reply that a verb makes of the body of a successful answer. -/
def Verb.decode : Verb → Octets → Checked Reply
  | create _, body => (decodeText "reference returned by create" body).map .reference
  | read template reference _, body =>
    ((Object.decode template.schema template.objectType body).map
      (·.withReference reference)).map .object
  | list pattern _, body =>
    (Object.decodeList pattern.schema ("list of " ++ pattern.objectType) body).map .objects
  | update _ _, body => (decodeText "reference returned by update" body).map .reference
  | delete _, body => (decodeText "reference returned by delete" body).map .reference
  | request _ _ _ _, body => .ok (.body body)
  | readNamed registry reference _, body =>
    (registry.entryFor reference >>= (·.decode body)).map .object
  | logout, _ => .ok .done

namespace Verb

/-- All that a verb can do: what it comes to, and the world that it leaves. -/
inductive Step (link : Link σ) (w : World σ) (v : Verb) : Checked Reply × World σ → Prop
  /-- Nothing is sent, and the verb fails. -/
  | unsent (e : Error) : Step link w v (.error e, w)
  /-- One request, and the reply that its answer's body makes. -/
  | sent (q : Request) (target : String) {w' : World σ} (hsent : w'.sent = w.sent ++ [q]) :
    Step link w v (link.outcome q target w >>= v.decode, w')

variable {link : Link σ} {w : World σ} {v : Verb}

/-- A verb that is an exchange with its own reply after it. -/
theorem Step.of_exchange (operation : Operation) (object : Option Snapshot) (reference : String)
    (query : Query) (target : String) :
    Step link w v ((link.exchange operation object reference query target
      >>= fun body => Session.lift (v.decode body)).runIn w) := by
  by_cases hphase : w.phase = .closed
  · rw [Session.runIn_bind, link.runIn_exchange_of_closed operation object reference query target
      hphase]
    exact .unsent .sessionClosed
  · rw [link.runIn_exchange_lift operation object reference query target v.decode hphase]
    exact .sent (link.endpoint.request operation object reference query) target rfl

/-- A verb that needs a reference. -/
theorem Step.of_reference {reference : String} {e : Error} {rest : Session σ Reply}
    (hrest : Step link w v (rest.runIn w)) :
    Step link w v ((if reference = "" then throw e else rest).runIn w) := by
  split
  · exact .unsent e
  · exact hrest

/-- **Every verb takes one of these steps.** -/
theorem step_run (link : Link σ) (w : World σ) (v : Verb) :
    Step link w v ((v.run link).runIn w) := by
  cases v with
  | create o =>
      have hrun : run link (.create o)
          = link.exchange .create (some o.snapshot) "" {} o.objectType >>= fun body =>
              Session.lift (decode (.create o) body) := by
        simp only [run, decode, Link.create, map_bind, Session.map_lift]
      rw [hrun]
      exact .of_exchange ..
  | read template reference query =>
      have hrun : run link (.read template reference query)
          = if reference = "" then throw (.validation (.referenceToRead template.objectType))
            else link.exchange .get (some template.snapshot) reference query reference
              >>= fun body => Session.lift (decode (.read template reference query) body) := by
        by_cases href : reference = ""
        · simp only [run, Link.read, if_pos href]
          rfl
        · simp only [run, decode, Link.read, if_neg href, map_bind, bind_pure_comp,
            Session.map_lift]
      rw [hrun]
      exact .of_reference (.of_exchange ..)
  | list pattern query =>
      have hrun : run link (.list pattern query)
          = link.exchange .get (some pattern.snapshot) "" query pattern.objectType >>= fun body =>
              Session.lift (decode (.list pattern query) body) := by
        simp only [run, decode, Link.list, map_bind, Session.map_lift]
      rw [hrun]
      exact .of_exchange ..
  | update o reference =>
      have hrun : run link (.update o reference)
          = if reference = "" then throw (.validation (.referenceToUpdate o.objectType))
            else link.exchange .update (some o.snapshot) reference {} reference >>= fun body =>
              Session.lift (decode (.update o reference) body) := by
        by_cases href : reference = ""
        · simp only [run, Link.update, if_pos href]
          rfl
        · simp only [run, decode, Link.update, if_neg href, map_bind, Session.map_lift]
      rw [hrun]
      exact .of_reference (.of_exchange ..)
  | delete reference =>
      have hrun : run link (.delete reference)
          = if reference = "" then throw (.validation .referenceToDelete)
            else link.exchange .delete none reference {} reference >>= fun body =>
              Session.lift (decode (.delete reference) body) := by
        by_cases href : reference = ""
        · simp only [run, Link.delete, if_pos href]
          rfl
        · simp only [run, decode, Link.delete, if_neg href, map_bind, Session.map_lift]
      rw [hrun]
      exact .of_reference (.of_exchange ..)
  | request operation object reference query =>
      have hrun : run link (.request operation object reference query)
          = link.exchange operation object reference query
              (if reference = "" then (object.map Snapshot.objectType).getD "" else reference)
            >>= fun body =>
              Session.lift (decode (.request operation object reference query) body) := by
        simp only [run, decode, Link.request, Session.lift_ok, bind_pure_comp]
      rw [hrun]
      exact .of_exchange ..
  | readNamed registry reference query =>
      cases hentry : registry.entryFor reference with
      | error e =>
          have hrun : run link (.readNamed registry reference query) = throw e := by
            simp only [run, Link.readNamed, hentry]
            rfl
          rw [hrun]
          exact .unsent e
      | ok entry =>
          have hrun : run link (.readNamed registry reference query)
              = link.exchange .get (some entry.snapshot) reference query reference >>= fun body =>
                  Session.lift (decode (.readNamed registry reference query) body) := by
            simp only [run, decode, Link.readNamed, hentry, Session.lift_ok, pure_bind, map_bind,
              Session.map_lift]
            rfl
          rw [hrun]
          exact .of_exchange ..
  | logout =>
      by_cases hphase : w.phase = .closed
      · have hclosed : (run link .logout).runIn w = (.error .sessionClosed, w) := by
          rw [run, Session.runIn_map, link.runIn_logout_of_closed hphase]
          rfl
        rw [hclosed]
        exact .unsent .sessionClosed
      · have hsent : (run link .logout).runIn w
            = (link.outcome link.farewell "logout" w >>= decode .logout,
                { link.after link.farewell w with phase := .closed }) := by
          rw [run, Session.runIn_map, link.runIn_logout_of_open hphase]
          cases link.outcome link.farewell "logout" w <;> rfl
        rw [hsent]
        exact .sent link.farewell "logout" rfl

end Verb

/-! ## Successful answers -/

/-- The server answers a request with success. -/
def Link.Answers (link : Link σ) (w : World σ) (q : Request) (response : Response) : Prop :=
  link.answer q w = .ok response ∧ response.isSuccess = true

theorem Link.outcome_eq_ok_iff {link : Link σ} {w : World σ} {q : Request} {target : String}
    {body : Octets} :
    link.outcome q target w = .ok body ↔ ∃ response, link.Answers w q response
      ∧ response.body = body := by
  constructor
  · intro h
    obtain ⟨response, hanswer, hcheck⟩ := bind_eq_ok.mp h
    cases hs : response.isSuccess with
    | false =>
        obtain ⟨e, he⟩ := response.check_of_failure hs target
        rw [hcheck] at he
        cases he
    | true =>
        rw [response.check_of_success hs] at hcheck
        exact ⟨response, ⟨hanswer, hs⟩, Except.ok.inj hcheck⟩
  · rintro ⟨response, ⟨hanswer, hs⟩, rfl⟩
    exact outcome_of_success hanswer hs target

namespace Verb

variable {link : Link σ} {w : World σ} {v : Verb}

/-- The outcome of a verb whose request is answered with success is its reply on the body. -/
theorem run_of_answered {q : Request} {response : Response}
    (hq : q ∈ (v.run link).newRequests w) (h : link.Answers w q response) :
    ((v.run link).runIn w).1 = v.decode response.body := by
  have hstep := step_run link w v
  unfold Session.newRequests at hq
  generalize (v.run link).runIn w = out at hstep hq ⊢
  cases hstep with
  | unsent e => simp at hq
  | sent q' target hsent =>
      rw [hsent, List.drop_left, List.mem_singleton] at hq
      subst hq
      show link.outcome q target w >>= v.decode = v.decode response.body
      rw [Link.outcome_of_success h.1 h.2]
      rfl

/-- **A verb that succeeds has sent one request**, and its reply is what the body of the answer
makes. -/
theorem answered_of_ok {reply : Reply} (h : ((v.run link).runIn w).1 = .ok reply) :
    ∃ q response, (v.run link).newRequests w = [q] ∧ link.Answers w q response
      ∧ v.decode response.body = .ok reply := by
  have hstep := step_run link w v
  unfold Session.newRequests
  generalize (v.run link).runIn w = out at hstep h ⊢
  cases hstep with
  | unsent e => cases h
  | sent q target hsent =>
      obtain ⟨body, hbody, hdecode⟩ := bind_eq_ok.mp h
      obtain ⟨response, hanswer, rfl⟩ := Link.outcome_eq_ok_iff.mp hbody
      exact ⟨q, response, by rw [hsent, List.drop_left], hanswer, hdecode⟩

end Verb
end GridClient
