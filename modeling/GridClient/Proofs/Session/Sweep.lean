import GridClient.Proofs.Session.Shapes
import GridClient.Sweep

/-!
# `GridClient.Proofs.Session.Sweep` — a sweep accounts for every reference

A sweep tries its references one after the other. What becomes of one bears neither on whether the
next is tried nor on the request that is sent for it, so the worlds that a sweep goes through are
known from its list alone, and each reference has the outcome that the answer in its own world
makes.

## Contents
- `Link.tried`, `Link.triedAll`: the worlds after one reference and after several have been tried.
- `Link.Judged`: the outcome of one reference; `judged_deleteIfPresent`: it is what is found.
- `SweepReport.ofOutcomes`: the report for a list of outcomes; `sweep_eq`: a sweep comes to it.
- `Interleaves`: a list is put together from three others.
- `Link.Keeps`: a server that deletes what it holds.
- `Link.sweep_accounts`: what a sweep sends and reports, and what a second one does.
-/

namespace GridClient

open Text (Octets)

variable {σ : Type}

/-! ## Trying one reference -/

namespace Endpoint

/-- The address tells the reference. -/
theorem deletion_inj (e : Endpoint) {r r' : String} : e.deletion r = e.deletion r' ↔ r = r' :=
  ⟨fun h => (String.append_right_inj e.host.baseUrl).mp (congrArg Request.url h),
    congrArg e.deletion⟩

end Endpoint

namespace Link

variable (link : Link σ)

/-- The world after a reference has been tried: an empty one, or any in a closed session, leaves it
as it is. -/
def tried (w : World σ) (reference : String) : World σ :=
  if reference = "" ∨ w.phase = .closed then w else link.after (link.endpoint.deletion reference) w

theorem tried_empty (w : World σ) : link.tried w "" = w := if_pos (.inl rfl)

theorem tried_of_closed {w : World σ} (h : w.phase = .closed) (reference : String) :
    link.tried w reference = w := if_pos (.inr h)

theorem tried_of_open {w : World σ} (h : w.phase ≠ .closed) {reference : String}
    (href : reference ≠ "") :
    link.tried w reference = link.after (link.endpoint.deletion reference) w :=
  if_neg (not_or.mpr ⟨href, h⟩)

@[simp] theorem tried_phase (w : World σ) (reference : String) :
    (link.tried w reference).phase = w.phase := by
  unfold tried
  split <;> rfl

/-- Whatever comes of it, a deletion leaves the world in which its reference has been tried. -/
theorem runIn_delete_snd (reference : String) (w : World σ) :
    ((link.delete reference).runIn w).2 = link.tried w reference := by
  by_cases href : reference = ""
  · subst href
    rw [runIn_delete_empty, tried_empty]
  · by_cases hphase : w.phase = .closed
    · rw [link.runIn_delete_of_closed hphase href, link.tried_of_closed hphase]
    · rw [link.runIn_delete_of_open hphase href, link.tried_of_open hphase href]

end Link

/-! ## The outcome of one reference -/

/-- Whether the object was there, by what its deletion came to. -/
def presence : Checked String → Checked Bool
  | .ok _ => .ok true
  | .error e => if e.isNotFound then .ok false else .error e

theorem presence_eq_true_iff {outcome : Checked String} :
    presence outcome = .ok true ↔ ∃ text, outcome = .ok text := by
  cases outcome with
  | ok text => simp [presence]
  | error e => cases he : e.isNotFound <;> simp [presence, he]

theorem presence_eq_false_iff {outcome : Checked String} :
    presence outcome = .ok false ↔ ∃ e, outcome = .error e ∧ e.isNotFound = true := by
  cases outcome with
  | ok text => simp [presence]
  | error e => cases he : e.isNotFound <;> simp [presence, he]

theorem presence_eq_error_iff {outcome : Checked String} {e : Error} :
    presence outcome = .error e ↔ outcome = .error e ∧ e.isNotFound = false := by
  cases outcome with
  | ok text => simp [presence]
  | error e' =>
      rw [presence, Except.error.injEq]
      by_cases heq : e' = e
      · subst heq
        cases e'.isNotFound <;> simp
      · cases e'.isNotFound <;> simp [heq]

namespace Link

variable (link : Link σ)

theorem runIn_deleteIfPresent (reference : String) (w : World σ) :
    (link.deleteIfPresent reference).runIn w
      = (presence ((link.delete reference).runIn w).1, link.tried w reference) := by
  rw [← link.runIn_delete_snd]
  rw [deleteIfPresent, Session.runIn, ExceptT.run_mk]
  rcases (link.delete reference).runIn w with ⟨_ | _, _⟩ <;> rfl

/-- The outcome of trying a reference in a world: it was deleted when the request is answered with
success and a JSON string, it was gone when that request is answered with absence, and in any other
case the failure is that of the deletion itself. -/
structure Judged (w : World σ) (reference : String) (outcome : Checked Bool) : Prop where
  deleted : outcome = Except.ok true ↔ reference ≠ "" ∧ w.phase ≠ .closed ∧ ∃ response text,
    link.Answers w (link.endpoint.deletion reference) response
      ∧ Document.read response.body = some (.string (some text))
  gone : outcome = Except.ok false ↔ reference ≠ "" ∧ w.phase ≠ .closed ∧ ∃ e,
    link.outcome (link.endpoint.deletion reference) reference w = .error e ∧ e.isNotFound = true
  failed : ∀ e, outcome = Except.error e ↔
    ((link.delete reference).runIn w).1 = .error e ∧ e.isNotFound = false

/-- **Each reference has the outcome that the answer to it makes.** -/
theorem judged_deleteIfPresent (reference : String) (w : World σ) :
    link.Judged w reference ((link.deleteIfPresent reference).runIn w).1 := by
  rw [link.runIn_deleteIfPresent]
  refine ⟨presence_eq_true_iff.trans ?_, presence_eq_false_iff.trans ?_,
    fun e => presence_eq_error_iff⟩
  all_goals
    by_cases href : reference = ""
    · subst href
      rw [runIn_delete_empty]
      simp [Error.isNotFound]
    by_cases hphase : w.phase = .closed
    · rw [link.runIn_delete_of_closed hphase href]
      simp [hphase, Error.isNotFound]
    rw [link.runIn_delete_of_open hphase href]
    simp only [ne_eq, href, hphase, not_false_eq_true, true_and]
  · -- the body of a success, and nothing else, is read as a text
    constructor
    · rintro ⟨text, htext⟩
      obtain ⟨body, hbody, hread⟩ := bind_eq_ok.mp htext
      obtain ⟨response, hanswer, rfl⟩ := outcome_eq_ok_iff.mp hbody
      exact ⟨response, text, hanswer, decodeText_eq_ok_iff.mp hread⟩
    · rintro ⟨response, text, hanswer, hread⟩
      exact ⟨text, bind_eq_ok.mpr ⟨response.body, outcome_eq_ok_iff.mpr ⟨response, hanswer, rfl⟩,
        decodeText_eq_ok_iff.mpr hread⟩⟩
  · -- a body that cannot be read is no report of absence
    cases houtcome : link.outcome (link.endpoint.deletion reference) reference w with
    | error e => simp [bind, Except.bind]
    | ok body =>
        refine ⟨?_, nofun⟩
        rintro ⟨e, he, hgone⟩
        rcases decodeText_ok_or "reference returned by delete" body with ⟨text, htext⟩ | ⟨c, hc⟩
        · cases htext.symm.trans he
        · cases hc.symm.trans he
          cases hgone

end Link

/-! ## Reports -/

namespace SweepReport

/-- The report for references with their outcomes, each in the list of its outcome. -/
def ofOutcomes (outcomes : List (String × Checked Bool)) : SweepReport where
  deleted := outcomes.filterMap fun t => match t.2 with
    | .ok true => some t.1
    | _ => none
  alreadyGone := outcomes.filterMap fun t => match t.2 with
    | .ok false => some t.1
    | _ => none
  failed := outcomes.filterMap fun t => match t.2 with
    | .error e => some (t.1, e)
    | _ => none

/-- A report with the entries of another one after its own. -/
def append (r s : SweepReport) : SweepReport :=
  ⟨r.deleted ++ s.deleted, r.alreadyGone ++ s.alreadyGone, r.failed ++ s.failed⟩

theorem append_ofOutcomes_nil (r : SweepReport) : r.append (ofOutcomes []) = r := by
  simp [append, ofOutcomes]

/-- Noting an outcome and going on is the same as putting it before those to come. -/
theorem append_note (r : SweepReport) (reference : String) (outcome : Checked Bool)
    (outcomes : List (String × Checked Bool)) :
    (r.note reference outcome).append (ofOutcomes outcomes)
      = r.append (ofOutcomes ((reference, outcome) :: outcomes)) := by
  rcases outcome with _ | (_ | _) <;> simp [append, note, ofOutcomes]

theorem ofOutcomes_cons (reference : String) (outcome : Checked Bool)
    (outcomes : List (String × Checked Bool)) :
    ofOutcomes ((reference, outcome) :: outcomes)
      = (note {} reference outcome).append (ofOutcomes outcomes) := by
  rw [append_note]
  simp [append]

/-- Nothing failed when every reference was deleted or gone. -/
theorem isClean_ofOutcomes (outcomes : List (String × Checked Bool)) :
    (ofOutcomes outcomes).isClean = true ↔ ∀ t ∈ outcomes, t.2 = .ok true ∨ t.2 = .ok false := by
  rw [isClean, List.isEmpty_iff, ofOutcomes, List.filterMap_eq_nil_iff]
  refine forall₂_congr fun t _ => ?_
  rcases t.2 with _ | (_ | _) <;> simp

end SweepReport

/-- A list is put together from three others, each of which keeps its order. -/
inductive Interleaves {α : Type} : List α → List α → List α → List α → Prop
  | nil : Interleaves [] [] [] []
  | first {a : α} {all as bs cs : List α} (h : Interleaves all as bs cs) :
    Interleaves (a :: all) (a :: as) bs cs
  | second {b : α} {all as bs cs : List α} (h : Interleaves all as bs cs) :
    Interleaves (b :: all) as (b :: bs) cs
  | third {c : α} {all as bs cs : List α} (h : Interleaves all as bs cs) :
    Interleaves (c :: all) as bs (c :: cs)

/-- Every reference is in the one list of its outcome. -/
theorem SweepReport.interleaves_ofOutcomes (outcomes : List (String × Checked Bool)) :
    Interleaves (outcomes.map Prod.fst) (ofOutcomes outcomes).deleted
      (ofOutcomes outcomes).alreadyGone ((ofOutcomes outcomes).failed.map Prod.fst) := by
  induction outcomes with
  | nil => exact .nil
  | cons t outcomes ih =>
      obtain ⟨reference, outcome⟩ := t
      rcases outcome with e | (_ | _)
      · exact ih.third
      · exact ih.second
      · exact ih.first

/-! ## Sweeps -/

namespace Link

variable (link : Link σ)

/-- The world after several references have been tried. -/
def triedAll (references : List String) (w : World σ) : World σ := references.foldl link.tried w

/-- The outcomes of several references, each in the world that those before it leave. -/
def outcomes : List String → World σ → List (String × Checked Bool)
  | [], _ => []
  | reference :: rest, w =>
    (reference, ((link.deleteIfPresent reference).runIn w).1)
      :: outcomes rest (link.tried w reference)

theorem map_fst_outcomes (references : List String) (w : World σ) :
    (link.outcomes references w).map Prod.fst = references := by
  induction references generalizing w with
  | nil => rfl
  | cons reference rest ih => rw [outcomes, List.map_cons, ih]

theorem sweepFrom_eq (report : SweepReport) (references : List String) (w : World σ) :
    link.sweepFrom report references w
      = (report.append (.ofOutcomes (link.outcomes references w)), link.triedAll references w) := by
  induction references generalizing report w with
  | nil => rw [outcomes, report.append_ofOutcomes_nil]; rfl
  | cons reference rest ih =>
      have hrun := link.runIn_deleteIfPresent reference w
      rw [sweepFrom, hrun, outcomes, hrun, ← SweepReport.append_note]
      exact ih ..

/-- **A sweep reports the outcomes of its references**, and leaves the world in which all of them
have been tried. -/
theorem sweep_eq (references : List String) (w : World σ) :
    link.sweep references w
      = (.ofOutcomes (link.outcomes references w), link.triedAll references w) := by
  rw [sweep, sweepFrom_eq]
  simp [SweepReport.append]

/-- The outcome at each place is the one in the world that the references before it leave. -/
theorem judged_of_outcomes {references : List String} {w : World σ} {i : Nat} {reference : String}
    {outcome : Checked Bool} (h : (link.outcomes references w)[i]? = some (reference, outcome)) :
    link.Judged (link.triedAll (references.take i) w) reference outcome := by
  induction references generalizing w i with
  | nil => cases h
  | cons head rest ih =>
      cases i with
      | zero =>
          cases h
          exact link.judged_deleteIfPresent reference w
      | succ i => exact ih h

/-! ### Requests -/

theorem triedAll_of_closed (references : List String) {w : World σ} (h : w.phase = .closed) :
    link.triedAll references w = w := by
  induction references with
  | nil => rfl
  | cons reference rest ih =>
      rw [triedAll, List.foldl_cons, link.tried_of_closed h]
      exact ih

@[simp] theorem triedAll_phase (references : List String) (w : World σ) :
    (link.triedAll references w).phase = w.phase := by
  induction references generalizing w with
  | nil => rfl
  | cons reference rest ih => exact (ih _).trans (link.tried_phase w reference)

/-- One deletion is sent for each reference that is not empty, in their order. -/
theorem sent_triedAll (references : List String) {w : World σ} (h : w.phase ≠ .closed) :
    (link.triedAll references w).sent
      = w.sent ++ (references.filter (· ≠ "")).map link.endpoint.deletion := by
  induction references generalizing w with
  | nil => simp [triedAll]
  | cons reference rest ih =>
      have hrest := ih (w := link.tried w reference) (by rwa [tried_phase])
      by_cases href : reference = ""
      · subst href
        rw [tried_empty] at hrest
        simpa [triedAll, tried_empty] using hrest
      · rw [link.tried_of_open h href, after_sent] at hrest
        simpa [triedAll, link.tried_of_open h href, href] using hrest

end Link

/-! ## Servers that delete what they hold -/

namespace Link

variable {link : Link σ} {holds : σ → String → Prop}

/-- The server deletes what it holds, and only that, and reports the absence of what it does not
hold. -/
structure Keeps (link : Link σ) (holds : σ → String → Prop) : Prop where
  deletes : ∀ s r, r ≠ "" → holds s r → ∃ response text,
    (link.transport.exchange (link.endpoint.deletion r) s).1 = .ok response
      ∧ response.isSuccess = true ∧ Document.read response.body = some (.string (some text))
  absent : ∀ s r, r ≠ "" → ¬ holds s r → ∃ response text,
    (link.transport.exchange (link.endpoint.deletion r) s).1 = .ok response
      ∧ response.check r = .error (.notFound r text)
  remains : ∀ s r r', r ≠ "" →
    (holds (link.transport.exchange (link.endpoint.deletion r) s).2 r' ↔ holds s r' ∧ r' ≠ r)

/-- What is held after several references have been tried is what was held, without them. -/
theorem Keeps.holds_triedAll (hkeeps : link.Keeps holds) (references : List String) {w : World σ}
    (h : w.phase ≠ .closed) {r : String} (hr : r ≠ "") :
    holds (link.triedAll references w).server r ↔ holds w.server r ∧ r ∉ references := by
  induction references generalizing w with
  | nil => simp [triedAll]
  | cons reference rest ih =>
      have hrest := ih (w := link.tried w reference) (by rwa [tried_phase])
      show holds (link.triedAll rest (link.tried w reference)).server r ↔ _
      rw [hrest, List.mem_cons, not_or]
      by_cases href : reference = ""
      · subst href
        rw [tried_empty]
        exact and_congr_right fun _ => (and_iff_right hr).symm
      · rw [link.tried_of_open h href]
        show holds (link.transport.exchange _ w.server).2 r ∧ _ ↔ _
        rw [hkeeps.remains _ _ _ href, and_assoc]

/-- What is not held is reported as gone, and stays so. -/
theorem Keeps.outcomes_eq (hkeeps : link.Keeps holds) {references : List String} {w : World σ}
    (h : w.phase ≠ .closed) (hgone : ∀ r ∈ references, r ≠ "" → ¬ holds w.server r) :
    link.outcomes references w = references.map fun r =>
      (r, if r = "" then .error (.validation .referenceToDelete) else .ok false) := by
  induction references generalizing w with
  | nil => rfl
  | cons reference rest ih =>
      have hrest : ∀ r ∈ rest, r ≠ "" → ¬ holds (link.tried w reference).server r := by
        intro r hmem hr hheld
        have hbefore := (hkeeps.holds_triedAll [reference] h hr).mp hheld
        exact hgone r (List.mem_cons_of_mem _ hmem) hr hbefore.1
      rw [outcomes, List.map_cons, ih (by rwa [tried_phase]) hrest]
      have hjudged := link.judged_deleteIfPresent reference w
      by_cases href : reference = ""
      · subst href
        rw [(hjudged.failed _).mpr ⟨congrArg Prod.fst (link.runIn_delete_empty w), rfl⟩, if_pos rfl]
      · obtain ⟨response, text, hanswer, hcheck⟩ :=
          hkeeps.absent w.server reference href (hgone _ List.mem_cons_self href)
        have houtcome : link.outcome (link.endpoint.deletion reference) reference w
            = .error (.notFound reference text) := by
          unfold outcome answer
          rw [hanswer]
          exact hcheck
        rw [hjudged.gone.mpr ⟨href, h, _, houtcome, rfl⟩, if_neg href]

end Link

/-- The report when every reference that is not empty was gone. -/
theorem SweepReport.ofOutcomes_of_gone (references : List String) (e : Error) :
    ofOutcomes (references.map fun r => (r, if r = "" then .error e else .ok false))
      = { deleted := [], alreadyGone := references.filter (· ≠ "")
          failed := (references.filter (· = "")).map (·, e) } := by
  induction references with
  | nil => rfl
  | cons r rest ih =>
      rw [List.map_cons, ofOutcomes_cons, ih]
      by_cases hr : r = ""
      · simp [note, append, hr]
      · simp [note, append, hr]

/-! ## The theorem -/

/-- **A sweep accounts for every reference.** An open session sends one deletion for each reference
that is not empty, in order, and a closed one none. Every place of the list has the outcome that
the answer to its deletion makes, in the world that the deletions before it leave. The report is
the list of outcomes taken apart, and clean when every reference was deleted or gone. Against a
server that deletes what it holds, a second sweep sends the same and finds everything gone. -/
theorem Link.sweep_accounts (link : Link σ) (references : List String) (w : World σ) :
    let swept := link.sweep references w
    let report := swept.1
    (w.phase ≠ .closed → swept.2.sent
      = w.sent ++ (references.filter (· ≠ "")).map link.endpoint.deletion)
    ∧ (w.phase = .closed → swept.2 = w)
    ∧ Interleaves references report.deleted report.alreadyGone (report.failed.map Prod.fst)
    ∧ (∃ outcomes : List (String × Checked Bool), outcomes.map Prod.fst = references
        ∧ report = .ofOutcomes outcomes
        ∧ (∀ i reference outcome, outcomes[i]? = some (reference, outcome) →
          link.Judged (link.triedAll (references.take i) w) reference outcome)
        ∧ (report.isClean = true ↔ ∀ t ∈ outcomes, t.2 = .ok true ∨ t.2 = .ok false))
    ∧ ∀ holds, link.Keeps holds → w.phase ≠ .closed →
        let again := link.sweep references swept.2
        again.2.sent = swept.2.sent ++ (references.filter (· ≠ "")).map link.endpoint.deletion
        ∧ again.1 = { deleted := [], alreadyGone := references.filter (· ≠ "")
                      failed := (references.filter (· = "")).map
                        (·, .validation .referenceToDelete) } := by
  intro swept report
  have hswept : swept = (.ofOutcomes (link.outcomes references w), link.triedAll references w) :=
    link.sweep_eq references w
  have hworld : swept.2 = link.triedAll references w := congrArg Prod.snd hswept
  have hreport : report = .ofOutcomes (link.outcomes references w) := congrArg Prod.fst hswept
  refine ⟨fun hopen => ?_, fun hclosed => ?_, ?_,
    ⟨link.outcomes references w, link.map_fst_outcomes references w, hreport,
      fun i reference outcome h => link.judged_of_outcomes h, ?_⟩, ?_⟩
  · rw [hworld, link.sent_triedAll references hopen]
  · rw [hworld, link.triedAll_of_closed references hclosed]
  · have hinterleaves := SweepReport.interleaves_ofOutcomes (link.outcomes references w)
    rwa [link.map_fst_outcomes, ← hreport] at hinterleaves
  · rw [hreport]
    exact SweepReport.isClean_ofOutcomes _
  · intro holds hkeeps hopen again
    have hstill : swept.2.phase ≠ .closed := by rwa [hworld, triedAll_phase]
    have hgone : ∀ r ∈ references, r ≠ "" → ¬ holds swept.2.server r := by
      intro r hmem hr hheld
      rw [hworld] at hheld
      exact ((hkeeps.holds_triedAll references hopen hr).mp hheld).2 hmem
    have hagain : again = (.ofOutcomes (link.outcomes references swept.2),
        link.triedAll references swept.2) := link.sweep_eq references swept.2
    rw [hagain]
    refine ⟨link.sent_triedAll references hstill, ?_⟩
    rw [hkeeps.outcomes_eq hstill hgone]
    exact SweepReport.ofOutcomes_of_gone references _

/-- A link to a server whose side is the list of the references that it holds. -/
def Link.keeper : Link (List String) where
  endpoint := Link.scripted.endpoint
  transport :=
    { name := "keeper"
      exchange := fun q held =>
        if held.any (Link.scripted.endpoint.deletion · = q) then
          (.ok ⟨200, Text.Utf8.encode "\"deleted\""⟩,
            held.filter (Link.scripted.endpoint.deletion · ≠ q))
        else (.ok ⟨404, Text.Utf8.encode "absent"⟩, held) }

theorem Link.exchange_keeper (held : List String) (r : String) :
    Link.keeper.transport.exchange (Link.keeper.endpoint.deletion r) held
      = if r ∈ held then (.ok ⟨200, Text.Utf8.encode "\"deleted\""⟩, held.filter (· ≠ r))
        else (.ok ⟨404, Text.Utf8.encode "absent"⟩, held) := by
  simp [Link.keeper, Endpoint.deletion_inj]

theorem Link.keeps_keeper : Link.keeper.Keeps fun held r => r ∈ held where
  deletes held r _ hr := by
    rw [Link.exchange_keeper, if_pos hr]
    exact ⟨_, "deleted", rfl, rfl, rfl⟩
  absent held r _ hr := by
    rw [Link.exchange_keeper, if_neg hr]
    exact ⟨_, "absent", rfl, rfl⟩
  remains held r r' _ := by
    rw [Link.exchange_keeper]
    by_cases hr : r ∈ held
    · simp [hr]
    · simp only [hr, if_false]
      refine ⟨fun hr' => ⟨hr', ?_⟩, And.left⟩
      rintro rfl
      exact hr hr'

/-- With an empty reference, one twice and one that was never there, the second sweep finds all
gone. -/
theorem Link.sweep_accounts_of_keeper :
    let references := ["network/a", "", "network/b", "network/a"]
    let first := Link.keeper.sweep references (World.start ["network/a", "network/c"])
    let again := Link.keeper.sweep references first.2
    first.2.sent = ["network/a", "network/b", "network/a"].map Link.keeper.endpoint.deletion
    ∧ again.1.deleted = [] ∧ again.1.alreadyGone = ["network/a", "network/b", "network/a"]
    ∧ again.1.failed = [("", .validation .referenceToDelete)] := by
  intro references first again
  have hopen : (World.start ["network/a", "network/c"]).phase ≠ .closed := by decide
  obtain ⟨hsent, -, -, -, hagain⟩ :=
    Link.keeper.sweep_accounts references (World.start ["network/a", "network/c"])
  have hreport := (hagain _ Link.keeps_keeper hopen).2
  refine ⟨(hsent hopen).trans rfl, ?_⟩
  rw [show again.1 = _ from hreport]
  exact ⟨rfl, rfl, rfl⟩

end GridClient
