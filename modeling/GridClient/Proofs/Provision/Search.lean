import GridClient.Proofs.Json.RoundTrip
import GridClient.Proofs.Provision.Families
import GridClient.Proofs.Provision.Lookup

/-!
# `GridClient.Proofs.Provision.Search` — how many objects a look-up finds

A look-up asks for all objects that agree with what is known, and counts those in the answer. That
there is none is told by an empty list alone: neither a broken exchange, nor an answer that reports
a failure, nor a list with something in it that is no object is ever taken for it.

## Contents
- `Lookup.collection`, `objectType_of_pattern`: where it is looked for.
- `Schema.ListIn`: the objects that a body lists.
- `Lookup.Counts`: what a look-up comes to, by the objects that are listed; `counts_of_listed`.
- `Provisioner.listed_of_*`: what is listed, by the answer.
- `Provisioner.run_task`: the task of a look-up is one of the two ways to look for an object.
- `Provisioner.lookup_counts`: every look-up whose arguments pass their checks.
-/

namespace GridClient

open Text (Octets)

/-! ## Collections -/

theorem Schema.questionMark_notMem_objectType (s : Schema) : '?' ∉ s.objectType.toList := by
  cases s <;> decide

namespace Lookup

/-- The collection that it is looked for in. -/
def collection (l : Lookup) : String :=
  match l with
  | network _ _ family | networkContainer _ _ family => family.typeName l.schema.objectType
  | _ => l.schema.objectType

variable {l : Lookup} {pattern : Object}

theorem objectType_of_pattern (h : l.pattern = .ok pattern) :
    pattern.objectType = l.collection := by
  have hschema := (members_of_pattern h).1
  cases l with
  | network view cidr family => exact objectType_of_network.1 h
  | networkContainer view cidr family => exact objectType_of_network.2 h
  | _ =>
      unfold Object.objectType
      rw [hschema]
      rfl

theorem questionMark_notMem_collection (l : Lookup) : '?' ∉ l.collection.toList := by
  cases l with
  | network view cidr family | networkContainer view cidr family =>
      exact Family.questionMark_notMem_typeName (Schema.questionMark_notMem_objectType _)
  | _ => exact Schema.questionMark_notMem_objectType _

end Lookup

/-! ## Objects in an answer -/

/-- A body lists objects of a kind: it is an array, and every item of it is one of them. -/
def Schema.ListIn (s : Schema) (body : Octets) (os : List Object) : Prop :=
  ∃ items, Document.read body = some (.array items)
    ∧ List.Forall₂ (fun d o => Object.ofDocument? s (nestingBound - 1) d = some o) items os

namespace Object

variable {schema : Schema} {body : Octets} {os : List Object} {context : String}

theorem decodeList_of_listIn (h : schema.ListIn body os) :
    decodeList schema context body = .ok os := decodeList_eq_ok_iff.mpr h

theorem decodeList_of_not_listIn (h : ∀ os, ¬ schema.ListIn body os) :
    decodeList schema context body = .error (.decode context) := by
  cases hread : readList? schema body with
  | none => rw [decodeList, hread]
  | some os =>
      have hlist : decodeList schema context body = .ok os := by rw [decodeList, hread]
      exact absurd (decodeList_eq_ok_iff.mp hlist) (h os)

end Object

/-- One item that is no object is enough for a body not to list any. -/
theorem Schema.not_listIn_of_mem {s : Schema} {body : Octets} {items : List Document} {d : Document}
    (hread : Document.read body = some (.array items)) (hmem : d ∈ items)
    (hd : Object.ofDocument? s (nestingBound - 1) d = none) (os : List Object) :
    ¬ s.ListIn body os := by
  rintro ⟨items', hread', hitems⟩
  rw [hread] at hread'
  cases hread'
  obtain ⟨hlength, hall⟩ := List.forall₂_iff_get.mp hitems
  obtain ⟨i, hi, rfl⟩ := List.getElem_of_mem hmem
  have hsome := hall i hi (hlength ▸ hi)
  rw [List.get_eq_getElem, hd] at hsome
  cases hsome

/-! ## Counting -/

/-- What a look-up comes to, by the objects that agree with it: the only one, if there is no other;
absence, if there is none; and otherwise an error that tells how many there are. -/
structure Lookup.Counts (l : Lookup) (os : List Object) (found : Checked Object)
    (foundIfAny : Checked (Option Object)) : Prop where
  one : ∀ o, found = .ok o ↔ os = [o]
  absent : found = .error (.notFound l.subject "no matching object") ↔ os.length = 0
  several : found = .error (.ambiguous l.subject os.length) ↔ 2 ≤ os.length
  oneIfAny : ∀ o, foundIfAny = .ok (some o) ↔ os = [o]
  absentIfAny : foundIfAny = .ok none ↔ os.length = 0
  severalIfAny : foundIfAny = .error (.ambiguous l.subject os.length) ↔ 2 ≤ os.length

theorem Lookup.counts_atMostOne (l : Lookup) (os : List Object) :
    l.Counts os (atMostOne l.subject os >>= Provisioner.insist l) (atMostOne l.subject os) := by
  rcases os with _ | ⟨o, _ | ⟨o', os⟩⟩
  · constructor <;> simp [atMostOne, Provisioner.insist, bind, Except.bind]
  · constructor <;> simp [atMostOne, Provisioner.insist, bind, Except.bind, eq_comm]
  · constructor <;> simp [atMostOne, bind, Except.bind]

/-! ## Runs -/

namespace Provisioner

variable {σ : Type} {p : Provisioner σ} {l : Lookup} {pattern : Object} {w : World σ} {e : Error}
  {response : Response}

/-- An exchange that is broken off is a failure of the look-up. -/
theorem listed_of_error (h : p.link.answer (p.searchRequest pattern) w = .error e) :
    p.listed pattern w = .error e := by
  unfold listed
  rw [Link.outcome_of_error h]
  rfl

/-- So is an answer that reports one. -/
theorem listed_of_failure (h : p.link.answer (p.searchRequest pattern) w = .ok response)
    (hfailure : response.isSuccess = false) :
    ∃ e, response.check pattern.objectType = .error e ∧ p.listed pattern w = .error e := by
  obtain ⟨e, hcheck, houtcome⟩ := Link.outcome_of_failure h hfailure pattern.objectType
  refine ⟨e, hcheck, ?_⟩
  unfold listed
  rw [houtcome]
  rfl

/-- Of a success the body is read. -/
theorem listed_of_success (h : p.link.answer (p.searchRequest pattern) w = .ok response)
    (hsuccess : response.isSuccess = true) :
    p.listed pattern w
      = Object.decodeList pattern.schema ("list of " ++ pattern.objectType) response.body := by
  unfold listed
  rw [Link.outcome_of_success h hsuccess]
  rfl

/-- What keeps objects from being listed is what the look-up ends with. -/
theorem run_of_listed_error (hpattern : l.pattern = .ok pattern) (hopen : w.phase ≠ .closed)
    (h : p.listed pattern w = .error e) :
    ((p.find l).runIn w).1 = .error e ∧ ((p.find? l).runIn w).1 = .error e := by
  rw [runIn_find, runIn_find?_of_ok hpattern hopen, h]
  exact ⟨rfl, rfl⟩

/-- The objects that are listed are counted. -/
theorem counts_of_listed (hpattern : l.pattern = .ok pattern) (hopen : w.phase ≠ .closed)
    {os : List Object} (h : p.listed pattern w = .ok os) :
    l.Counts os ((p.find l).runIn w).1 ((p.find? l).runIn w).1 := by
  rw [runIn_find, runIn_find?_of_ok hpattern hopen, h]
  exact l.counts_atMostOne os

/-- **The task of a look-up** insists on the object, unless it is a zone or the definition of an
attribute. -/
theorem run_task (p : Provisioner σ) (l : Lookup) :
    l.task.run p = if l.schema = .zoneAuth ∨ l.schema = .attributeDefinition
      then Reply.found <$> p.find? l else Reply.object <$> p.find l := by
  cases l <;> rfl

end Provisioner

/-! ## The theorem -/

/-- **A look-up counts what agrees with it.** In an open session, with arguments that pass their
checks, it is one search in the collection of its kind. In the body of that just what is known is
read, and no attributes where the kind has any, so that there is none for the grid. When a list of
objects is answered, a look-up ends with the object if there is one, with absence if there is none,
and with an error if there are several. A broken exchange, an answer that reports a failure, and a
body that is no list of objects, be it for a single item, all end it with their own errors. Absence
is no failure for zones and for the definitions of attributes, and one for all else. -/
theorem Provisioner.lookup_counts {σ : Type} (p : Provisioner σ) (l : Lookup) {w : World σ}
    (hopen : w.phase ≠ .closed) (hchecks : checkAll l.arguments = .ok ()) :
    let found := ((p.find l).runIn w).1
    let foundIfAny := ((p.find? l).runIn w).1
    let members : Fields := l.written
      ++ (if l.schema = .attributeDefinition ∨ l.schema = .grid then []
        else [("extattrs", .object [])])
    let unreadable : Error := .decode ("list of " ++ l.collection)
    ∃ q, (p.find l).newRequests w = [q] ∧ (p.find? l).newRequests w = [q]
      ∧ (l.task.run p).newRequests w = [q]
      ∧ ((l.task.run p).runIn w).1
        = (if l.schema = .zoneAuth ∨ l.schema = .attributeDefinition then foundIfAny.map .found
          else found.map .object)
      ∧ q.method = .get ∧ p.link.endpoint.host.target? q.url = some l.collection
      ∧ (l ≠ .grid → q.Bears members) ∧ (l = .grid → q.body = none)
      ∧ (∀ e, p.link.answer q w = .error e → found = .error e ∧ foundIfAny = .error e)
      ∧ ∀ response, p.link.answer q w = .ok response →
        (response.isSuccess = false → ∃ e, response.check l.collection = .error e
          ∧ found = .error e ∧ foundIfAny = .error e)
        ∧ (response.isSuccess = true →
          (∀ os, l.schema.ListIn response.body os → l.Counts os found foundIfAny)
          ∧ ((∀ os, ¬ l.schema.ListIn response.body os) →
            found = .error unreadable ∧ foundIfAny = .error unreadable)
          ∧ ∀ items d, Document.read response.body = some (.array items) → d ∈ items →
            Object.ofDocument? l.schema (nestingBound - 1) d = none →
            found = .error unreadable ∧ foundIfAny = .error unreadable) := by
  intro found foundIfAny members unreadable
  obtain ⟨pattern, hpattern, -⟩ := l.vets_pattern.passed hchecks
  obtain ⟨hschema, -⟩ := Lookup.members_of_pattern hpattern
  have htype := Lookup.objectType_of_pattern hpattern
  have hmembers : l.members = members := by cases l <;> rfl
  have hbody := p.body_searchRequest hpattern
  have hnone := Lookup.members_eq_nil_iff (l := l)
  rw [hmembers] at hbody hnone
  have hsent := newRequests_find_of_ok (p := p) hpattern hopen
  have hsent? := newRequests_find?_of_ok (p := p) hpattern hopen
  refine ⟨p.searchRequest pattern, hsent, hsent?, ?_, ?_, rfl, ?_, ?_, ?_, ?_, ?_⟩
  · rw [p.run_task]
    split
    · exact (Session.newRequests_map _ _ w).trans hsent?
    · exact (Session.newRequests_map _ _ w).trans hsent
  · rw [p.run_task]
    split
    · rw [Session.runIn_map]
    · rw [Session.runIn_map]
  · refine target_of_find (w := w) l.questionMark_notMem_collection
      (fun _ => Lookup.objectType_of_pattern) ?_
    rw [hsent]
    exact List.mem_singleton_self _
  · intro hgrid
    rw [if_neg (mt hnone.mp hgrid)] at hbody
    exact Request.bears_of_body hbody
  · intro hgrid
    rw [hbody, if_pos (hnone.mpr hgrid)]
  · intro e he
    exact run_of_listed_error hpattern hopen (listed_of_error he)
  · intro response hanswer
    -- a single item that is no object keeps the whole body from listing any
    have hunreadable (hsuccess : response.isSuccess = true)
        (h : ∀ os, ¬ l.schema.ListIn response.body os) :
        found = .error unreadable ∧ foundIfAny = .error unreadable := by
      apply run_of_listed_error hpattern hopen
      rw [listed_of_success hanswer hsuccess, hschema, htype]
      exact Object.decodeList_of_not_listIn h
    refine ⟨fun hfailure => ?_, fun hsuccess => ⟨fun os hos => ?_, hunreadable hsuccess, ?_⟩⟩
    · obtain ⟨e, hcheck, hlisted⟩ := listed_of_failure hanswer hfailure
      rw [htype] at hcheck
      exact ⟨e, hcheck, run_of_listed_error hpattern hopen hlisted⟩
    · apply counts_of_listed hpattern hopen
      rw [listed_of_success hanswer hsuccess, hschema]
      exact Object.decodeList_of_listIn hos
    · intro items d hread hmem hd
      exact hunreadable hsuccess (Schema.not_listIn_of_mem hread hmem hd)

/-- Two text records of one name. -/
theorem Provisioner.lookup_counts_of_two :
    let p : Provisioner (List (Checked Response)) := { link := .scripted }
    let l := Lookup.recordTxt "default" "www.example.com"
    let body := Text.Utf8.encode (Json.text (.array
      [.object [("_ref", .string "record:txt/a")], .object [("_ref", .string "record:txt/b")]]))
    let w := World.start [.ok ⟨200, body⟩]
    (∃ q, (p.find l).newRequests w = [q]
      ∧ q.Bears [("view", .string "default"), ("name", .string "www.example.com"),
        ("extattrs", .object [])])
    ∧ ((l.task.run p).runIn w).1 = .error (.ambiguous l.subject 2) := by
  intro p l body w
  have hopen : w.phase ≠ .closed := by decide
  obtain ⟨q, hsent, -, -, htask, -, -, hbears, -, -, hanswer⟩ := p.lookup_counts l hopen rfl
  obtain ⟨os, hos, hlength⟩ : ∃ os, l.schema.ListIn body os ∧ os.length = 2 :=
    ⟨[_, _], ⟨_, Document.read_text _, .cons rfl (.cons rfl .nil)⟩, rfl⟩
  have hcounts := ((hanswer ⟨200, body⟩ rfl).2 rfl).1 os hos
  have hseveral := hcounts.several.mpr (by omega)
  rw [hlength] at hseveral
  rw [hseveral] at htask
  exact ⟨⟨q, hsent, hbears nofun⟩, htask⟩

end GridClient
