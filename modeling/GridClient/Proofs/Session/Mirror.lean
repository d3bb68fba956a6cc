import Mathlib.Data.List.Forall2
import GridClient.Proofs.Session.Effects
import GridClient.Transport.Scripted

/-!
# `GridClient.Proofs.Session.Mirror` — two computations that run alike

Two computations are run from worlds in the same phase and with the same server. One mirrors the
other if whatever the one does the other does with a request of its own in the place of each
request: both come to the same, and their requests are related one by one. That is put together
along the computations from their steps. For one exchange the server has to answer related requests
alike.

## Contents
- `World.Alike`: worlds that agree in phase and server.
- `Session.Mirrors`, with `mirrors_lift`, `Mirrors.bind`, `Mirrors.map`: its rules.
- `Transport.Respects`: related requests are answered alike; `respects_scripted`.
- `Link.mirrors_*`: the verbs, from the requests that they send.
-/

namespace GridClient

variable {σ α β : Type} {R : Request → Request → Prop}

/-- Two worlds agree in all but the requests that have been sent. -/
structure World.Alike (w w' : World σ) : Prop where
  phase_eq : w.phase = w'.phase
  server_eq : w.server = w'.server

theorem World.Alike.refl (w : World σ) : w.Alike w := ⟨rfl, rfl⟩

/-! ## Computations -/

namespace Session

/-- From worlds that agree, two computations come to the same and to worlds that agree, and the
requests that they add are related one by one. -/
def Mirrors (R : Request → Request → Prop) (x y : Session σ α) : Prop :=
  ∀ w w', w.Alike w' →
    (x.runIn w).1 = (y.runIn w').1 ∧ (x.runIn w).2.Alike (y.runIn w').2
      ∧ ∃ new new', (x.runIn w).2.sent = w.sent ++ new ∧ (y.runIn w').2.sent = w'.sent ++ new'
        ∧ List.Forall₂ R new new'

/-- A local check depends on no world. -/
theorem mirrors_lift (x : Checked α) :
    (Session.lift x : Session σ α).Mirrors R (Session.lift x) := by
  intro w w' hw
  exact ⟨rfl, hw, [], [], (List.append_nil _).symm, (List.append_nil _).symm, .nil⟩

theorem mirrors_throw (e : Error) : (throw e : Session σ α).Mirrors R (throw e) :=
  mirrors_lift (.error e)

/-- What stands after a failure is never reached. -/
theorem mirrors_throw_bind (e : Error) (f g : α → Session σ β) :
    ((throw e : Session σ α) >>= f).Mirrors R ((throw e : Session σ α) >>= g) := mirrors_throw e

theorem mirrors_pure (a : α) : (pure a : Session σ α).Mirrors R (pure a) := mirrors_lift (.ok a)

/-- **One step and the rest.** Steps that mirror each other end both computations or none, and in
the second case with the same value. -/
theorem Mirrors.bind {x y : Session σ α} {f g : α → Session σ β} (hxy : x.Mirrors R y)
    (hfg : ∀ a, (f a).Mirrors R (g a)) : (x >>= f).Mirrors R (y >>= g) := by
  intro w w' hw
  obtain ⟨hout, halike, new, new', hsent, hsent', hnew⟩ := hxy w w' hw
  rw [runIn_bind, runIn_bind]
  rcases hx : x.runIn w with ⟨r, v⟩
  rcases hy : y.runIn w' with ⟨r', v'⟩
  rw [hx, hy] at hout halike
  rw [hx] at hsent
  rw [hy] at hsent'
  cases hout
  cases r with
  | error e => exact ⟨rfl, halike, new, new', hsent, hsent', hnew⟩
  | ok a =>
      -- the rests start from worlds that agree, with the related requests behind them
      obtain ⟨hout, halike, more, more', hmore, hmore', hrest⟩ := hfg a v v' halike
      refine ⟨hout, halike, new ++ more, new' ++ more', ?_, ?_, List.rel_append hnew hrest⟩
      · show ((f a).runIn v).2.sent = _
        rw [hmore, hsent, List.append_assoc]
      · show ((g a).runIn v').2.sent = _
        rw [hmore', hsent', List.append_assoc]

/-- A pure step afterwards changes the two outcomes alike. -/
theorem Mirrors.map {x y : Session σ α} (g : α → β) (hxy : x.Mirrors R y) :
    (g <$> x).Mirrors R (g <$> y) := by
  intro w w' hw
  obtain ⟨hout, halike, hnew⟩ := hxy w w' hw
  rw [runIn_map, runIn_map]
  exact ⟨congrArg (Except.map g) hout, halike, hnew⟩

/-- What is mirrored in one world: outcome, phase, server and, one by one, the requests. -/
theorem Mirrors.newRequests {x y : Session σ α} (hxy : x.Mirrors R y) (w : World σ) :
    (x.runIn w).1 = (y.runIn w).1 ∧ (x.runIn w).2.Alike (y.runIn w).2
      ∧ List.Forall₂ R (x.newRequests w) (y.newRequests w) := by
  obtain ⟨hout, halike, new, new', hsent, hsent', hnew⟩ := hxy w w (.refl w)
  refine ⟨hout, halike, ?_⟩
  rw [newRequests_eq hsent, newRequests_eq hsent']
  exact hnew

end Session

/-! ## Transports -/

/-- Related requests get the same answer, and leave the same server behind. -/
def Transport.Respects (R : Request → Request → Prop) (t : Transport σ) : Prop :=
  ∀ r r' server, R r r' → t.exchange r server = t.exchange r' server

/-- Answers known beforehand depend on no request. -/
theorem Transport.respects_scripted : Transport.scripted.Respects R := fun _ _ _ _ => rfl

/-! ## Verbs -/

namespace Link

variable {link : Link σ} (hlink : link.transport.Respects R)
include hlink

/-- Two exchanges with related requests. -/
theorem mirrors_exchange {operation operation' : Operation} {object object' : Option Snapshot}
    {reference reference' : String} {query query' : Query}
    (h : R (link.endpoint.request operation object reference query)
      (link.endpoint.request operation' object' reference' query')) (target : String) :
    (link.exchange operation object reference query target).Mirrors R
      (link.exchange operation' object' reference' query' target) := by
  intro w w' hw
  by_cases hphase : w.phase = .closed
  · rw [runIn_exchange_of_closed link _ _ _ _ _ hphase,
      runIn_exchange_of_closed link _ _ _ _ _ (hw.phase_eq ▸ hphase)]
    exact ⟨rfl, hw, [], [], (List.append_nil _).symm, (List.append_nil _).symm, .nil⟩
  · -- the two servers are the same and answer the two requests alike
    have hanswer := hlink _ _ w.server h
    have hphase' : w'.phase ≠ .closed := hw.phase_eq ▸ hphase
    rw [runIn_exchange_of_open link _ _ _ _ _ hphase,
      runIn_exchange_of_open link _ _ _ _ _ hphase', runIn_send, runIn_send, ← hw.server_eq,
      hanswer]
    exact ⟨rfl, ⟨hw.phase_eq, rfl⟩, _, _, rfl, rfl, .cons h .nil⟩

theorem mirrors_create {o : Object}
    (h : R (link.endpoint.creation o) (link.endpoint.creation o)) :
    (link.create o).Mirrors R (link.create o) :=
  (mirrors_exchange hlink h _).bind fun _ => Session.mirrors_lift _

theorem mirrors_read {template : Object} {reference : String} {query query' : Query}
    (h : reference ≠ "" → R (link.endpoint.reading template reference query)
      (link.endpoint.reading template reference query')) :
    (link.read template reference query).Mirrors R (link.read template reference query') := by
  unfold read
  split
  · exact Session.mirrors_throw_bind _ _ _
  · rename_i href
    exact (mirrors_exchange hlink (h href) _).bind fun _ =>
      (Session.mirrors_lift _).bind fun _ => Session.mirrors_pure _

theorem mirrors_list {pattern : Object} {query query' : Query}
    (h : R (link.endpoint.request .get (some pattern.snapshot) "" query)
      (link.endpoint.request .get (some pattern.snapshot) "" query')) :
    (link.list pattern query).Mirrors R (link.list pattern query') :=
  (mirrors_exchange hlink h _).bind fun _ => Session.mirrors_lift _

theorem mirrors_update {o : Object} {reference : String}
    (h : reference ≠ "" → R (link.endpoint.change o reference) (link.endpoint.change o reference)) :
    (link.update o reference).Mirrors R (link.update o reference) := by
  unfold update
  split
  · exact Session.mirrors_throw_bind _ _ _
  · rename_i href
    exact (mirrors_exchange hlink (h href) _).bind fun _ => Session.mirrors_lift _

theorem mirrors_delete {reference : String}
    (h : R (link.endpoint.request .delete none reference {})
      (link.endpoint.request .delete none reference {})) :
    (link.delete reference).Mirrors R (link.delete reference) := by
  unfold delete
  split
  · exact Session.mirrors_throw_bind _ _ _
  · exact (mirrors_exchange hlink h _).bind fun _ => Session.mirrors_lift _

end Link
end GridClient
