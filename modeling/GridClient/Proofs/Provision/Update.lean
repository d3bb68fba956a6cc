import GridClient.Proofs.Provision.Basic
import GridClient.Proofs.Provision.Drafts
import GridClient.Provision.Update

/-!
# `GridClient.Proofs.Provision.Update` — updates that keep what they do not change

An update writes the arguments that are given and the attributes, and nothing else. Where the new
attributes depend on the old ones it reads the object first, and without an answer that can be
understood it writes nothing.

## Contents
- `Update.written`: the members for the arguments that are given; `members_of_draft`: an update's
  object has those and the attributes.
- `AttributeChange.valueOf`: what becomes of one attribute.
- `Provisioner.Writes`: what the request that changes an object says.
- `runIn_resolve_*`: how the new attributes are found.
- `update_preserves_attributes`: the requests of an update.
-/

namespace GridClient

/-! ## Members for arguments -/

/-- The member for an argument, if it is given. -/
def givenMember {α : Type} (name : String) (json : α → Json) (argument : Option α) : Fields :=
  (argument.map fun a => (name, json a)).toList

/-- The member for a text, if it is given. -/
def givenText (name : String) (argument : Option String) : Fields :=
  givenMember name .string argument

/-- A time to live comes with the flag that puts it to use. -/
def givenTtl : Option UInt32 → Fields
  | some ttl => [("ttl", .number (.ofUInt32 ttl)), ("use_ttl", .bool true)]
  | none => []

namespace Update

/-- The members for the arguments that are given. -/
def written : Update → Fields
  | networkView comment | network comment => givenText "comment" comment
  | fixedAddress mac name => givenText "mac" mac ++ givenText "name" name
  | recordA name ip ttl => givenText "name" name ++ givenText "ipv4addr" ip ++ givenTtl ttl
  | recordAaaa name ip ttl => givenText "name" name ++ givenText "ipv6addr" ip ++ givenTtl ttl
  | recordPtr pointerName ttl => givenText "ptrdname" pointerName ++ givenTtl ttl
  | recordCname canonical aliasName ttl =>
    givenText "name" aliasName ++ givenText "canonical" canonical ++ givenTtl ttl
  | recordMx mailExchanger preference ttl =>
    givenText "mail_exchanger" mailExchanger
      ++ givenMember "preference" (fun n => .number (.ofUInt32 n)) preference ++ givenTtl ttl
  | recordTxt text ttl => givenText "text" text ++ givenTtl ttl

/-- An accepted update's object holds the given arguments and no other field. -/
theorem fieldMembers_of_draft {u : Update} {draft : Object} (h : u.draft = .ok draft) :
    draft.schema = u.schema
    ∧ Object.fieldMembers draft.values u.schema.writtenFields = u.written := by
  cases u with
  | networkView comment | network comment =>
      cases h
      cases comment <;> exact ⟨rfl, rfl⟩
  | fixedAddress mac name =>
      obtain ⟨-, -, h⟩ := bind_eq_ok.mp h
      cases h
      cases mac <;> cases name <;> exact ⟨rfl, rfl⟩
  | recordA name ip ttl | recordAaaa name ip ttl =>
      obtain ⟨-, -, h⟩ := bind_eq_ok.mp h
      cases h
      cases name <;> cases ip <;> cases ttl <;> exact ⟨rfl, rfl⟩
  | recordPtr name ttl | recordTxt name ttl =>
      cases h
      cases name <;> cases ttl <;> exact ⟨rfl, rfl⟩
  | recordCname first second ttl | recordMx first second ttl =>
      cases h
      cases first <;> cases second <;> cases ttl <;> exact ⟨rfl, rfl⟩

/-- Every kind of object that can be updated has attributes, and a read of it asks for them. -/
theorem schema_hasAttributes (u : Update) :
    u.schema.hasAttributes = true ∧ Schema.attributesKey ∈ u.schema.returnFields := by
  cases u <;> exact ⟨rfl, by simp [Update.schema, Schema.returnFields, Schema.attributesKey]⟩

theorem members_of_draft {u : Update} {draft : Object} (h : u.draft = .ok draft)
    (attributes : Attributes) :
    ({ draft with attributes } : Object).members
      = u.written ++ [(Schema.attributesKey, attributes.toJson)] := by
  obtain ⟨hschema, hfields⟩ := fieldMembers_of_draft h
  unfold Object.members
  rw [hschema, hfields, (schema_hasAttributes u).1]
  rfl

end Update

/-! ## What becomes of the attributes -/

namespace AttributeChange

/-- Only a replacement does not depend on the attributes that there are. -/
theorem needsCurrent_iff {change : AttributeChange} :
    change.needsCurrent = true ↔ ∀ attributes, change ≠ .replace attributes := by
  cases change with
  | replace attributes => exact ⟨nofun, fun h => absurd rfl (h attributes)⟩
  | keep => exact ⟨fun _ _ => nofun, fun _ => rfl⟩
  | merge add remove => exact ⟨fun _ _ => nofun, fun _ => rfl⟩

/-- What becomes of one attribute of an object that has `current`: a merge removes a name whatever
it adds, and adds a value whatever there was. -/
def valueOf : AttributeChange → (current : Attributes) → String → Option AttributeValue
  | keep, current, name => current.get? name
  | replace attributes, _, name => attributes.get? name
  | merge add remove, current, name =>
    if name ∈ remove then none else (add.get? name).or (current.get? name)

theorem get?_apply (change : AttributeChange) (current : Attributes) (name : String) :
    (change.apply current).get? name = change.valueOf current name := by
  cases change with
  | keep => rfl
  | replace attributes => rfl
  | merge add remove => exact Attributes.get?_merge current add remove name

end AttributeChange

/-! ## Requests of an update -/

namespace Provisioner

variable {σ : Type}

/-- A request writes to the object with a reference: it bears the given arguments and the
attributes, and nothing else. -/
structure Writes (p : Provisioner σ) (u : Update) (reference : String) (attributes : Attributes)
    (q : Request) : Prop where
  method : q.method = .put
  url : q.url = p.link.endpoint.host.baseUrl ++ reference
  headers : q.headers = p.link.endpoint.headers
  bears : q.Bears (u.written ++ [("extattrs", attributes.toJson)])

/-- The request that writes the given arguments and the attributes. -/
def writeRequest (p : Provisioner σ) (u : Update) (reference : String) (attributes : Attributes) :
    Request where
  method := .put
  url := p.link.endpoint.host.baseUrl ++ reference
  headers := p.link.endpoint.headers
  body := some (bodyOctets (u.written ++ [(Schema.attributesKey, attributes.toJson)]))

theorem writes_writeRequest (p : Provisioner σ) (u : Update) (reference : String)
    (attributes : Attributes) :
    p.Writes u reference attributes (p.writeRequest u reference attributes) where
  method := rfl
  url := rfl
  headers := rfl
  bears := Request.bears_of_body rfl

theorem change_of_draft (p : Provisioner σ) {u : Update} {draft : Object} {reference : String}
    (hdraft : u.draft = .ok draft) (href : reference ≠ "") (attributes : Attributes) :
    p.link.endpoint.change { draft with attributes } reference
      = p.writeRequest u reference attributes := by
  rw [Endpoint.change_eq _ _ href, Update.members_of_draft hdraft]
  rfl

/-! ## Runs -/

theorem runIn_resolve_of_replace (p : Provisioner σ) (schema : Schema) (reference : String)
    (attributes : Attributes) (w : World σ) :
    (p.resolve schema reference (.replace attributes)).runIn w = (.ok attributes, w) := rfl

/-- The attributes are found by one read; of what it yields only the attributes count. -/
theorem runIn_resolve_of_needsCurrent (p : Provisioner σ) (schema : Schema) (reference : String)
    {change : AttributeChange} (hchange : change.needsCurrent = true) (w : World σ) :
    (p.resolve schema reference change).runIn w
      = (((p.read schema reference).runIn w).1.map fun current => change.apply current.attributes,
          ((p.read schema reference).runIn w).2) := by
  have hresolve : p.resolve schema reference change
      = (fun current => change.apply current.attributes) <$> p.read schema reference := by
    unfold resolve
    rw [if_pos hchange]
    rfl
  rw [hresolve, Session.runIn_map]

/-- What a write comes to: the reference in its answer, and the world after this one request. -/
def written (p : Provisioner σ) (q : Request) (reference : String) (w : World σ) :
    Checked String × World σ :=
  (p.link.outcome q reference w >>= decodeText "reference returned by update", p.link.after q w)

/-- Without attributes to write, an update ends where the search for them ended. -/
theorem runIn_update_of_error (p : Provisioner σ) {u : Update} {draft : Object}
    {reference : String} {change : AttributeChange} (href : Text.isBlankText reference = false)
    (hdraft : u.draft = .ok draft) {e : Error} {w w' : World σ}
    (h : (p.resolve u.schema reference change).runIn w = (.error e, w')) :
    (p.update u reference change).runIn w = (.error e, w') := by
  unfold update
  rw [Session.runIn_lift_bind (require_of_nonblank "reference" href),
    Session.runIn_lift_bind hdraft, Session.runIn_bind, h]

/-- With them, it goes on to write. -/
theorem runIn_update_of_ok (p : Provisioner σ) {u : Update} {draft : Object}
    {reference : String} {change : AttributeChange} (href : Text.isBlankText reference = false)
    (hdraft : u.draft = .ok draft) {attributes : Attributes} {w w' : World σ}
    (h : (p.resolve u.schema reference change).runIn w = (.ok attributes, w'))
    (hopen : w'.phase ≠ .closed) :
    (p.update u reference change).runIn w
      = p.written (p.writeRequest u reference attributes) reference w' := by
  have hne := ne_empty_of_nonblank href
  unfold update
  rw [Session.runIn_lift_bind (require_of_nonblank "reference" href),
    Session.runIn_lift_bind hdraft, Session.runIn_bind, h]
  show (p.link.update _ reference).runIn w' = _
  rw [p.link.runIn_update _ hne hopen, change_of_draft p hdraft hne]
  rfl

/-! ## The theorem -/

/-- **Updates keep what they do not change.** With arguments that pass their checks, a replacement
is one write in an open session. Any other change reads the object with its attributes first: where
no attributes are found the failure is the outcome and nothing is written, and else one write
follows, with the attributes that the change makes of them. -/
theorem update_preserves_attributes (p : Provisioner σ) (u : Update) {reference : String}
    (change : AttributeChange) {w : World σ} (hopen : w.phase ≠ .closed)
    (href : Text.isBlankText reference = false) (hchecks : checkAll u.arguments = .ok ()) :
    let run := (p.update u reference change).runIn w
    (∀ attributes, change = .replace attributes →
        ∃ put, p.Writes u reference attributes put ∧ run = p.written put reference w)
    ∧ ((∀ attributes, change ≠ .replace attributes) →
        ∃ get, p.Asks u.schema reference get ∧ "extattrs" ∈ u.schema.returnFields
          ∧ (∀ e, p.link.answer get w = .error e → run = (.error e, p.link.after get w))
          ∧ ∀ response, p.link.answer get w = .ok response →
            (response.isSuccess = false → ∃ e, response.check reference = .error e
              ∧ run = (.error e, p.link.after get w))
            ∧ (response.isSuccess = true → Object.read? u.schema response.body = none →
              run = (.error (.decode u.schema.objectType), p.link.after get w))
            ∧ ∀ current, response.isSuccess = true →
                Object.read? u.schema response.body = some current →
                ∃ (attributes : Attributes) (put : Request),
                  (∀ name, attributes.get? name = change.valueOf current.attributes name)
                  ∧ p.Writes u reference attributes put
                  ∧ run = p.written put reference (p.link.after get w)) := by
  intro run
  obtain ⟨draft, hdraft, -⟩ := u.vets_draft.passed hchecks
  constructor
  · rintro attributes rfl
    refine ⟨_, p.writes_writeRequest u reference attributes, ?_⟩
    exact runIn_update_of_ok p href hdraft
      (runIn_resolve_of_replace p u.schema reference attributes w) hopen
  · intro hchange
    have hread := p.readsBack_read u.schema href hopen
    have hresolve := p.runIn_resolve_of_needsCurrent u.schema reference
      (AttributeChange.needsCurrent_iff.mpr hchange) w
    rw [hread.world] at hresolve
    refine ⟨_, hread.asks, u.schema_hasAttributes.2, ?_, ?_⟩
    · intro e he
      rw [hread.unanswered e he] at hresolve
      exact runIn_update_of_error p href hdraft hresolve
    · intro response hanswer
      refine ⟨?_, ?_, ?_⟩
      · intro hfailure
        obtain ⟨e, hcheck, he⟩ := hread.refused response hanswer hfailure
        rw [he] at hresolve
        exact ⟨e, hcheck, runIn_update_of_error p href hdraft hresolve⟩
      · intro hsuccess hnone
        rw [hread.unreadable response hanswer hsuccess hnone] at hresolve
        exact runIn_update_of_error p href hdraft hresolve
      · -- the only case that goes on to write
        intro current hsuccess hsome
        rw [hread.object response current hanswer hsuccess hsome] at hresolve
        exact ⟨change.apply current.attributes, _, change.get?_apply _,
          p.writes_writeRequest u reference _, runIn_update_of_ok p href hdraft hresolve hopen⟩

set_option maxRecDepth 8000 in
/-- A merge into an object with two attributes keeps the one that it does not name, and an update
that changes no attribute keeps both. -/
theorem update_preserves_attributes_of_record :
    let p : Provisioner (List (Checked Response)) := { link := .scripted }
    let u := Update.recordA none (some "10.0.0.9") (some 300)
    let reference := "record:a/ZG5z"
    let merge := AttributeChange.merge (.ofList [("Site", .text "b")]) ["Owner"]
    let w := World.start [
      .ok ⟨200, Text.Utf8.encode
        ("\x7b\"extattrs\":\x7b\"Rack\":\x7b\"value\":\"7\"\x7d,"
          ++ "\"Owner\":\x7b\"value\":\"x\"\x7d\x7d\x7d")⟩,
      .ok ⟨200, Text.Utf8.encode "\"record:a/ZG5z\""⟩]
    (∃ attributes get put, p.Asks .recordA reference get ∧ p.Writes u reference attributes put
      ∧ attributes.get? "Site" = some (.text "b") ∧ attributes.get? "Owner" = none
      ∧ attributes.get? "Rack" = some (.text "7")
      ∧ (p.update u reference merge).runIn w = p.written put reference (p.link.after get w))
    ∧ ∃ attributes get put, p.Asks .recordA reference get ∧ p.Writes u reference attributes put
      ∧ attributes.get? "Site" = none ∧ attributes.get? "Owner" = some (.text "x")
      ∧ attributes.get? "Rack" = some (.text "7")
      ∧ (p.update u reference .keep).runIn w = p.written put reference (p.link.after get w) := by
  intro p u reference merge w
  have hopen : w.phase ≠ .closed := by decide
  have href : Text.isBlankText reference = false := by decide
  constructor
  · obtain ⟨-, h⟩ := p.update_preserves_attributes u merge hopen href rfl
    obtain ⟨get, hasks, -, -, hanswer⟩ := h fun _ => nofun
    obtain ⟨attributes, put, hget, hwrites, hrun⟩ := (hanswer _ rfl).2.2 _ rfl rfl
    exact ⟨attributes, get, put, hasks, hwrites, (hget _).trans rfl, (hget _).trans rfl,
      (hget _).trans rfl, hrun⟩
  · obtain ⟨-, h⟩ := p.update_preserves_attributes u .keep hopen href rfl
    obtain ⟨get, hasks, -, -, hanswer⟩ := h fun _ => nofun
    obtain ⟨attributes, put, hget, hwrites, hrun⟩ := (hanswer _ rfl).2.2 _ rfl rfl
    exact ⟨attributes, get, put, hasks, hwrites, (hget _).trans rfl, (hget _).trans rfl,
      (hget _).trans rfl, hrun⟩

end Provisioner
end GridClient
