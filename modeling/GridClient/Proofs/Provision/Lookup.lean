import GridClient.Proofs.Provision.Drafts
import GridClient.Proofs.Provision.Requests
import GridClient.Proofs.Provision.Update

/-!
# `GridClient.Proofs.Provision.Lookup` — the run of a look-up

A look-up checks its arguments, lists what agrees with its pattern in one request, and insists on
one object at most, or on exactly one.

## Contents
- `Lookup.schema`, `written`: the kind and the criteria of a look-up; `Lookup.members_of_pattern`:
  the object to search by has those.
- `Provisioner.searchRequest`: the request; `body_searchRequest`: it bears the criteria; `listed`:
  the objects in its answer.
- `runIn_find?_of_*`: the run of a look-up, by its checks and the phase of the session.
- `insist`, `runIn_find`: a look-up of an object that has to be there.
- `exists_of_find_eq_ok`: what is known of a look-up that has found its object.
- `of_mem_newRequests_find`, `newRequests_find_of_ok`, `newRequests_find?_of_ok`: what a look-up
  sends.
-/

namespace GridClient

/-! ## Criteria -/

namespace Lookup

/-- The kind of what is looked for. -/
def schema : Lookup → Schema
  | networkView .. => .networkView
  | network .. => .network
  | networkContainer .. => .networkContainer
  | fixedAddress .. => .fixedAddress
  | ipv6FixedAddress .. => .ipv6FixedAddress
  | recordA .. => .recordA
  | recordAaaa .. => .recordAaaa
  | recordPtr .. => .recordPtr
  | recordCname .. => .recordCname
  | recordMx .. => .recordMx
  | recordTxt .. => .recordTxt
  | zoneAuth .. => .zoneAuth
  | attributeDefinition .. => .attributeDefinition
  | grid => .grid

/-- The members for what is known, in declared order. -/
def written : Lookup → Fields
  | networkView name | attributeDefinition name => [("name", .string name)]
  | network view cidr _ | networkContainer view cidr _ =>
    [("network_view", .string view), ("network", .string cidr)]
  | fixedAddress view ip mac =>
    [("network_view", .string view)] ++ givenText "ipv4addr" (given ip)
      ++ givenText "mac" (given mac)
  | ipv6FixedAddress view ip => [("network_view", .string view), ("ipv6addr", .string ip)]
  | recordA view name ip =>
    [("view", .string view), ("name", .string name), ("ipv4addr", .string ip)]
  | recordAaaa view name ip =>
    [("view", .string view), ("name", .string name), ("ipv6addr", .string ip)]
  | recordPtr view pointerName ip =>
    [("view", .string view), ("ptrdname", .string pointerName),
      (if Text.has ip ':' then "ipv6addr" else "ipv4addr", .string ip)]
  | recordCname view canonical aliasName =>
    [("view", .string view), ("name", .string aliasName), ("canonical", .string canonical)]
  | recordMx view name mailExchanger =>
    [("view", .string view), ("name", .string name), ("mail_exchanger", .string mailExchanger)]
  | recordTxt view name => [("view", .string view), ("name", .string name)]
  | zoneAuth view fqdn => [("view", .string view), ("fqdn", .string fqdn)]
  | grid => []

/-- The members to search by: what is known, and no attributes where the kind has any. -/
def members (l : Lookup) : Fields :=
  l.written ++ (if l.schema.hasAttributes then [(Schema.attributesKey, .object [])] else [])

variable {l : Lookup} {pattern : Object}

/-- **The object to search by has what is known and no other field.** -/
theorem members_of_pattern (h : l.pattern = .ok pattern) :
    pattern.schema = l.schema ∧ pattern.members = l.members := by
  cases l with
  | networkView name | attributeDefinition name | network view cidr family
  | networkContainer view cidr family =>
      cases eq_ok_of_bind h
      exact ⟨rfl, rfl⟩
  | zoneAuth view fqdn =>
      cases eq_ok_of_bind (eq_ok_of_bind h)
      exact ⟨rfl, rfl⟩
  | fixedAddress view ip mac =>
      have hrest := eq_ok_of_bind h
      split at hrest
      · cases hrest
      · cases eq_ok_of_bind (eq_ok_of_bind hrest)
        rw [members, written]
        cases given ip <;> cases given mac <;> exact ⟨rfl, rfl⟩
  | ipv6FixedAddress view ip | recordA view name ip | recordAaaa view name ip =>
      cases eq_ok_of_bind (eq_ok_of_bind h)
      exact ⟨rfl, rfl⟩
  | recordPtr view pointerName ip =>
      cases eq_ok_of_bind (eq_ok_of_bind h)
      rw [members, written]
      -- the address stands in the field of its family
      cases Text.has ip ':' <;> exact ⟨rfl, rfl⟩
  | recordCname | recordMx | recordTxt =>
      cases eq_ok_of_bind h
      exact ⟨rfl, rfl⟩
  | grid =>
      cases h
      exact ⟨rfl, rfl⟩

/-- Only of the grid nothing has to be known. -/
theorem members_eq_nil_iff : l.members = [] ↔ l = .grid := by
  cases l <;> simp [members, written, schema, Schema.hasAttributes]

end Lookup

/-! ## Searches -/

variable {σ : Type}

/-- A search sends one request, and the objects are in its answer. -/
theorem Link.runIn_list (link : Link σ) (pattern : Object) (query : Query) {w : World σ}
    (h : w.phase ≠ .closed) :
    (link.list pattern query).runIn w
      = (link.outcome (link.endpoint.request .get (some pattern.snapshot) "" query)
            pattern.objectType w
            >>= Object.decodeList pattern.schema ("list of " ++ pattern.objectType),
          link.after (link.endpoint.request .get (some pattern.snapshot) "" query) w) :=
  link.runIn_exchange_lift .get (some pattern.snapshot) "" query pattern.objectType _ h

theorem Link.runIn_list_of_closed (link : Link σ) (pattern : Object) (query : Query) {w : World σ}
    (h : w.phase = .closed) : (link.list pattern query).runIn w = (.error .sessionClosed, w) := by
  unfold list
  rw [Session.runIn_bind, runIn_exchange_of_closed link _ _ _ _ _ h]

namespace Provisioner

variable {p : Provisioner σ} {l : Lookup} {pattern o : Object} {w : World σ} {e : Error}

/-- The request that lists what agrees with a pattern. -/
def searchRequest (p : Provisioner σ) (pattern : Object) : Request :=
  p.link.endpoint.request .get (some pattern.snapshot) "" p.readQuery

/-- The objects in the answer to that request, or why there are none. -/
def listed (p : Provisioner σ) (pattern : Object) (w : World σ) : Checked (List Object) :=
  p.link.outcome (p.searchRequest pattern) pattern.objectType w
    >>= Object.decodeList pattern.schema ("list of " ++ pattern.objectType)

/-- **The request of a look-up** bears what is known, and nothing when there is nothing to know. -/
theorem body_searchRequest (p : Provisioner σ) (h : l.pattern = .ok pattern) :
    (p.searchRequest pattern).body
      = if l.members = [] then none else some (bodyOctets l.members) := by
  have hcriteria : pattern.criteria = ∅ := (l.vets_pattern.of_eq_ok h).criteria
  rw [← (Lookup.members_of_pattern h).2]
  exact Object.body_listing hcriteria p.link.endpoint p.readQuery rfl

/-! ## At most one object -/

/-- Arguments that fail their checks end a look-up before anything is sent. -/
theorem runIn_find?_of_error (h : l.pattern = .error e) : (p.find? l).runIn w = (.error e, w) :=
  Session.runIn_lift_bind_error h _ w

theorem runIn_find?_of_closed (h : l.pattern = .ok pattern) (hclosed : w.phase = .closed) :
    (p.find? l).runIn w = (.error .sessionClosed, w) := by
  unfold find?
  rw [Session.runIn_lift_bind h, Session.runIn_bind, p.link.runIn_list_of_closed _ _ hclosed]

/-- **A look-up whose arguments pass** is one request, and all that is left is to count. -/
theorem runIn_find?_of_ok (h : l.pattern = .ok pattern) (hopen : w.phase ≠ .closed) :
    (p.find? l).runIn w
      = (p.listed pattern w >>= atMostOne l.subject, p.link.after (p.searchRequest pattern) w) := by
  have hlist : (p.link.list pattern p.readQuery).runIn w
      = (p.listed pattern w, p.link.after (p.searchRequest pattern) w) :=
    p.link.runIn_list pattern p.readQuery hopen
  unfold find?
  rw [Session.runIn_lift_bind h, Session.runIn_bind, hlist]
  cases p.listed pattern w <;> rfl

/-! ## Exactly one object -/

/-- The object that is looked for, where it has been found. -/
def insist (l : Lookup) : Option Object → Checked Object
  | some o => .ok o
  | none => .error (.notFound l.subject "no matching object")

/-- To insist on an object takes no further request. -/
theorem runIn_find (p : Provisioner σ) (l : Lookup) (w : World σ) :
    (p.find l).runIn w
      = (((p.find? l).runIn w).1 >>= insist l, ((p.find? l).runIn w).2) := by
  have hfind : p.find l = p.find? l >>= fun found => Session.lift (insist l found) := by
    unfold find
    congr 1
    funext found
    cases found <;> rfl
  rw [hfind, Session.runIn_bind]
  rcases (p.find? l).runIn w with ⟨_ | found, w'⟩
  · rfl
  · rfl

/-- **A look-up that has found its object** had arguments that passed, and it sent one request in an
open session. -/
theorem exists_of_find_eq_ok (h : ((p.find l).runIn w).1 = .ok o) :
    ∃ pattern, l.pattern = .ok pattern ∧ w.phase ≠ .closed
      ∧ (p.find l).runIn w = (.ok o, p.link.after (p.searchRequest pattern) w) := by
  cases hpattern : l.pattern with
  | error e =>
      rw [runIn_find, runIn_find?_of_error hpattern] at h
      cases h
  | ok pattern =>
      by_cases hclosed : w.phase = .closed
      · rw [runIn_find, runIn_find?_of_closed hpattern hclosed] at h
        cases h
      · refine ⟨pattern, rfl, hclosed, Prod.ext h ?_⟩
        rw [runIn_find, runIn_find?_of_ok hpattern hclosed]

/-- All that a look-up may send is its search. -/
theorem of_mem_newRequests_find {q : Request} (h : q ∈ (p.find l).newRequests w) :
    ∃ pattern, l.pattern = .ok pattern ∧ q = p.searchRequest pattern := by
  have hsends : (p.find l).SendsOnly fun q =>
      ∃ pattern, l.pattern = .ok pattern ∧ q = p.searchRequest pattern :=
    sendsOnly_find fun pattern hpattern => ⟨pattern, hpattern, rfl⟩
  exact hsends.newRequests w q h

/-- A look-up whose arguments pass sends its search in an open session. -/
theorem newRequests_find_of_ok (h : l.pattern = .ok pattern) (hopen : w.phase ≠ .closed) :
    (p.find l).newRequests w = [p.searchRequest pattern] := by
  apply Session.newRequests_eq
  rw [runIn_find, runIn_find?_of_ok h hopen]
  rfl

/-- A look-up of an object that may be missing sends its search, too. -/
theorem newRequests_find?_of_ok (h : l.pattern = .ok pattern) (hopen : w.phase ≠ .closed) :
    (p.find? l).newRequests w = [p.searchRequest pattern] := by
  apply Session.newRequests_eq
  rw [runIn_find?_of_ok h hopen]
  rfl

end Provisioner
end GridClient
