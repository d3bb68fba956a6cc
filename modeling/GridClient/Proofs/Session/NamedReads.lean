import GridClient.Proofs.Provision.Basic
import GridClient.Proofs.Session.Types

/-!
# `GridClient.Proofs.Session.NamedReads` — two ways to read one object

An object can be read with its kind known beforehand, or with its kind looked up by the type that
its reference names. Both ways send the same request and read the same answer, in every phase and
with every server. They differ in one step: a read of a known kind gives the object the reference
that was asked for where the answer names none, and a read by look-up does not.

## Contents
- `Registry.entryFor_standard`: the look-up by a reference.
- `Link.readNamed_eq_exchange`, `read_eq_map_readNamed`: the two ways, and the step between them.
- `Object.SameRead`: two outcomes that agree in all that a reader sees.
- `Link.reads_agree_iff`: when the two ways agree.
-/

namespace GridClient

variable {σ : Type}

/-! ## The look-up -/

/-- A reference that begins with a type is not empty. -/
theorem ne_empty_of_objectTypeOf? {name reference : String}
    (h : objectTypeOf? reference = some name) : reference ≠ "" := by
  rintro rfl
  cases h

/-- The entry for a reference is that of the type that it begins with. -/
theorem Registry.entryFor_standard {name reference : String} {schema : Schema}
    (hname : standard.get? name = some (schema.kind.entry name))
    (href : objectTypeOf? reference = some name) :
    standard.entryFor reference = .ok (schema.kind.entry name) := by
  unfold entryFor
  rw [href]
  exact entry_eq_ok_iff.mpr hname

/-! ## The two ways -/

/-- Of what a read by a reference presents to the server only the fields to return matter. -/
theorem Endpoint.request_get_congr (e : Endpoint) {first second : Snapshot}
    (hfields : first.returnFields = second.returnFields) {reference : String}
    (href : reference ≠ "") (query : Query) :
    e.request .get (some first) reference query
      = e.request .get (some second) reference query := by
  simp [request, Host.url, requestBody, hfields, href]

namespace Link

variable (link : Link σ) {name reference : String} {schema : Schema}

/-- A read by look-up is an exchange with a pure step after it. -/
theorem readNamed_eq_exchange
    (hname : Registry.standard.get? name = some (schema.kind.entry name))
    (href : objectTypeOf? reference = some name) (query : Query) :
    link.readNamed .standard reference query
      = link.exchange .get (some ({ schema } : Object).snapshot) reference query reference
          >>= fun body => Session.lift
            (Object.decode schema ({ schema } : Object).objectType body) := by
  have hne := ne_empty_of_objectTypeOf? href
  -- the entry bears the name and the object the kind's own type, but the reference is what counts
  have hfields : (schema.kind.entry name).snapshot.returnFields
      = ({ schema } : Object).snapshot.returnFields := rfl
  have hrequest := link.endpoint.request_get_congr hfields hne query
  unfold readNamed
  rw [Registry.entryFor_standard hname href]
  show (link.exchange _ _ _ _ _ >>= fun body => Session.lift (RegistryEntry.decode _ body)) = _
  simp only [Schema.decode_entry, Object.objectType_of_schema]
  unfold exchange
  rw [hrequest]

/-- **A read of a known kind is a read by look-up** that also gives the object the reference that
was asked for, where it has none. -/
theorem read_eq_map_readNamed
    (hname : Registry.standard.get? name = some (schema.kind.entry name))
    (href : objectTypeOf? reference = some name) (query : Query) :
    link.read { schema } reference query
      = (·.withReference reference) <$> link.readNamed .standard reference query := by
  have hne := ne_empty_of_objectTypeOf? href
  rw [link.read_eq_exchange { schema } query hne, link.readNamed_eq_exchange hname href]
  simp only [map_bind, Session.map_lift]

end Link

/-! ## When they agree -/

namespace Object

/-- A given reference changes neither the JSON form nor the type. -/
theorem toJson_withReference (o : Object) (reference : String) :
    (o.withReference reference).toJson = o.toJson := by
  unfold withReference
  split <;> rfl

theorem objectType_withReference (o : Object) (reference : String) :
    (o.withReference reference).objectType = o.objectType := by
  unfold withReference
  split <;> rfl

/-- An object keeps its reference under a given one exactly if it has one. -/
theorem reference_withReference_iff (o : Object) {reference : String} (h : reference ≠ "") :
    (o.withReference reference).reference = o.reference ↔ o.reference ≠ "" := by
  unfold withReference
  by_cases ho : o.reference = ""
  · simp [ho, h]
  · simp [ho]

/-- Two outcomes of reads that agree in all that a reader sees: the same failure, or objects with
the same reference, JSON form and type. -/
inductive SameRead : Checked Object → Checked Object → Prop
  | failed (e : Error) : SameRead (.error e) (.error e)
  | read {o o' : Object} (hreference : o.reference = o'.reference) (hjson : o.toJson = o'.toJson)
    (htype : o.objectType = o'.objectType) : SameRead (.ok o) (.ok o')

theorem SameRead.reference_eq {x y : Checked Object} (h : SameRead x y) :
    x.map reference = y.map reference := by
  cases h with
  | failed e => rfl
  | read hreference => exact congrArg Except.ok hreference

/-- A given reference is seen exactly in an object that has none. -/
theorem sameRead_map_withReference_iff {reference : String} (h : reference ≠ "")
    (outcome : Checked Object) :
    SameRead (outcome.map (·.withReference reference)) outcome
      ↔ ∀ o, outcome = .ok o → o.reference ≠ "" := by
  cases outcome with
  | error e => exact ⟨fun _ => nofun, fun _ => .failed e⟩
  | ok o =>
      constructor
      · intro hsame o' ho
        cases ho
        cases hsame with
        | read hreference => exact (o.reference_withReference_iff h).mp hreference
      · intro hall
        exact .read ((o.reference_withReference_iff h).mpr (hall o rfl))
          (o.toJson_withReference reference) (o.objectType_withReference reference)

end Object

/-- **The two ways to read an object agree** in the world that they leave, in the one request that
they send, in how they fail, and in the JSON form and the type of what they read. They agree in the
reference, and so altogether, exactly if the object that the look-up reads has one. -/
theorem Link.reads_agree_iff (link : Link σ) {name : String} {schema : Schema}
    (hname : Registry.standard.get? name = some (schema.kind.entry name)) {reference : String}
    (href : objectTypeOf? reference = some name) (query : Query) (w : World σ) :
    let known := link.read { schema } reference query
    let named := link.readNamed .standard reference query
    (known.runIn w).2 = (named.runIn w).2
      ∧ (w.phase ≠ .closed →
          known.newRequests w = [link.endpoint.reading { schema } reference query]
          ∧ named.newRequests w = [link.endpoint.reading { schema } reference query])
      ∧ (known.runIn w).1.map (fun o => (o.toJson, o.objectType))
          = (named.runIn w).1.map (fun o => (o.toJson, o.objectType))
      ∧ (Object.SameRead (known.runIn w).1 (named.runIn w).1
          ↔ ∀ o, (named.runIn w).1 = .ok o → o.reference ≠ "") := by
  intro known named
  have hne := ne_empty_of_objectTypeOf? href
  have hknown : known = (·.withReference reference) <$> named :=
    link.read_eq_map_readNamed hname href query
  -- the two runs differ in nothing but the step after the answer
  have hrun : known.runIn w
      = ((named.runIn w).1.map (·.withReference reference), (named.runIn w).2) := by
    rw [hknown, Session.runIn_map]
  refine ⟨by rw [hrun], fun hopen => ?_, ?_, ?_⟩
  · have hsent : known.newRequests w = [link.endpoint.reading { schema } reference query] := by
      refine Session.newRequests_eq ?_
      rw [link.runIn_read { schema } query hne hopen, after_sent]
    refine ⟨hsent, ?_⟩
    rw [hknown, Session.newRequests_map] at hsent
    exact hsent
  · rw [hrun]
    cases (named.runIn w).1 with
    | error e => rfl
    | ok o =>
        simp only [Except.map, o.toJson_withReference, o.objectType_withReference]
  · rw [hrun]
    exact Object.sameRead_map_withReference_iff hne _

/-- A network of version 6 that comes with a reference of its own is the same either way. -/
theorem Link.reads_agree_iff_of_ipv6 :
    let reference := "ipv6network/ZG5z:2001%3Adb8%3A%3A/32/default"
    let w := World.start [.ok ⟨200, Text.Utf8.encode
      "\x7b\"_ref\":\"ipv6network/ZG5y\",\"network\":\"2001:db8::/32\"\x7d"⟩]
    Registry.standard.get? "ipv6network" = some (Schema.network.kind.entry "ipv6network")
      ∧ objectTypeOf? reference = some "ipv6network"
      ∧ Object.SameRead ((Link.scripted.read { schema := .network } reference {}).runIn w).1
          ((Link.scripted.readNamed .standard reference {}).runIn w).1 := by
  intro reference w
  have hname : Registry.standard.get? "ipv6network"
      = some (Schema.network.kind.entry "ipv6network") :=
    Registry.standard_get?_of_mem (by decide)
  have href : objectTypeOf? reference = some "ipv6network" := by decide
  have hgiven : ((Link.scripted.readNamed .standard reference {}).runIn w).1.map Object.reference
      = .ok "ipv6network/ZG5y" := by decide
  refine ⟨hname, href, (Link.scripted.reads_agree_iff hname href {} w).2.2.2.mpr fun o ho => ?_⟩
  rw [ho] at hgiven
  rw [Except.ok.inj hgiven]
  decide

/-- A network view that comes without its reference has the one that was asked for when it is read
by its kind, and none when it is read by look-up. -/
theorem Link.reads_differ :
    let reference := "networkview/ZG5z:default/true"
    let w := World.start [.ok ⟨200, Text.Utf8.encode "\x7b\"name\":\"default\"\x7d"⟩]
    let known := ((Link.scripted.read { schema := .networkView } reference {}).runIn w).1
    let named := ((Link.scripted.readNamed .standard reference {}).runIn w).1
    Registry.standard.get? "networkview" = some (Schema.networkView.kind.entry "networkview")
      ∧ objectTypeOf? reference = some "networkview"
      ∧ known.map Object.reference = .ok reference ∧ named.map Object.reference = .ok ""
      ∧ ¬ Object.SameRead known named := by
  intro reference w known named
  have hknown : known.map Object.reference = .ok reference := rfl
  have hnamed : named.map Object.reference = .ok "" := by decide
  refine ⟨Registry.standard_get?_of_mem (by decide), by decide, hknown, hnamed, fun hsame => ?_⟩
  have heq := hsame.reference_eq
  rw [hknown, hnamed] at heq
  exact absurd (Except.ok.inj heq) (by decide)

end GridClient
