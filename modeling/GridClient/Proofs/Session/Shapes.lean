import GridClient.Proofs.Schema.Reading
import GridClient.Proofs.Session.Answers

/-!
# `GridClient.Proofs.Session.Shapes` — answers of the wrong shape

A verb expects one object, a list of objects or a text. An answer of another shape is a decode
error, with one exception: a record may be written as an array of its members, so an array that
lists the members of an object in declared order is read as that object.

## Contents
- `Undecodable`: the failure to read a body.
- `Schema.Listed`: an array lists the members of an object.
- `Schema.OnArray`: what comes of an array where one object is expected.
- `Verb.ReadsOne`, `Verb.isList`, `Verb.isWrite`: what a verb expects.
- `Verb.HeedsShape`, `shapes_heeded`: what comes of an answer of another shape.
-/

namespace GridClient

open Text (Octets)

variable {α β : Type}

/-! ## Failures to read -/

/-- The failure to read a body. -/
def Undecodable (r : Checked α) : Prop := ∃ context, r = .error (.decode context)

theorem Undecodable.map {r : Checked α} (h : Undecodable r) (f : α → β) :
    Undecodable (r.map f) := by
  obtain ⟨context, rfl⟩ := h
  exact ⟨context, rfl⟩

theorem decodeText_eq_ok_iff {context : String} {body : Octets} {text : String} :
    decodeText context body = .ok text ↔ Document.read body = some (.string (some text)) := by
  have hread : decodeText context body = .ok text
      ↔ Document.read body >>= Document.toText? = some text := by
    unfold decodeText
    cases Document.read body >>= Document.toText? <;> simp
  simp only [hread, Option.bind_eq_bind, Option.bind_eq_some_iff, Document.toText?_eq_some_iff,
    exists_eq_right]

/-- A text is read, or there is a failure to read it. -/
theorem decodeText_ok_or (context : String) (body : Octets) :
    (∃ text, decodeText context body = .ok text) ∨ Undecodable (decodeText context body) := by
  unfold decodeText
  split
  · exact .inl ⟨_, rfl⟩
  · exact .inr ⟨context, rfl⟩

/-- A body that holds no text is not read as one. -/
theorem undecodable_decodeText {body : Octets} (context : String)
    (h : ∀ text?, Document.read body ≠ some (.string text?)) :
    Undecodable (decodeText context body) := by
  refine (decodeText_ok_or context body).resolve_left ?_
  rintro ⟨text, htext⟩
  exact h _ (decodeText_eq_ok_iff.mp htext)

namespace Object

variable {schema : Schema}

/-- An object is read, or there is a failure to read it. -/
theorem decode_ok_or (context : String) (body : Octets) :
    (∃ o, decode schema context body = .ok o) ∨ Undecodable (decode schema context body) := by
  unfold decode
  split
  · exact .inl ⟨_, rfl⟩
  · exact .inr ⟨context, rfl⟩

/-- A list is read, or there is a failure to read it. -/
theorem decodeList_ok_or (context : String) (body : Octets) :
    (∃ os, decodeList schema context body = .ok os)
      ∨ Undecodable (decodeList schema context body) := by
  unfold decodeList
  split
  · exact .inl ⟨_, rfl⟩
  · exact .inr ⟨context, rfl⟩

/-- A body that holds no array is not read as a list of objects. -/
theorem undecodable_decodeList {body : Octets} (context : String)
    (h : ∀ items, Document.read body ≠ some (.array items)) :
    Undecodable (decodeList schema context body) := by
  refine (decodeList_ok_or context body).resolve_left ?_
  rintro ⟨os, hos⟩
  obtain ⟨items, hitems, -⟩ := decodeList_eq_ok_iff.mp hos
  exact h items hitems

end Object

/-! ## Arrays where one object is expected -/

/-- An array lists an object of a kind: its items fit the first members of the kind in declared
order, as many as have to be there at least. -/
def Schema.Listed (schema : Schema) (items : List Document) : Prop :=
  schema.layout.required ≤ items.length
    ∧ List.Forall₂ (schema.Fits nestingBound) (schema.layout.names.take items.length) items

/-- What comes of a body where one object of a kind is expected, should the body be an array: one
that lists an object is read, and any other is a decode error. -/
structure Schema.OnArray (schema : Schema) (body : Octets) (outcome : Checked α) : Prop where
  listed : ∀ items, Document.read body = some (.array items) → schema.Listed items →
    ∃ a, outcome = .ok a
  unlisted : ∀ items, Document.read body = some (.array items) → ¬ schema.Listed items →
    Undecodable outcome

namespace Object

variable {schema : Schema}

/-- **An array is read as an object exactly when it lists one.** -/
theorem exists_ofDocument?_array_iff {items : List Document} :
    (∃ o, ofDocument? schema nestingBound (.array items) = some o) ↔ schema.Listed items := by
  rw [exists_ofDocument?_iff]
  unfold Schema.Listed
  rw [List.forall₂_iff_get]
  constructor
  · rintro ⟨haccepts, hfits⟩
    cases haccepts with
    | array enough few =>
        refine ⟨enough, by rw [List.length_take, Nat.min_eq_left few], fun i hname hitem => ?_⟩
        have hi : i < schema.layout.names.length := Nat.lt_of_lt_of_le hitem few
        simp only [List.get_eq_getElem, List.getElem_take]
        exact hfits _ (List.getElem_mem hi) _
          (.array (List.getElem?_eq_getElem hi) (List.getElem?_eq_getElem hitem))
  · rintro ⟨enough, hlength, hfits⟩
    have few : items.length ≤ schema.layout.names.length := by
      rw [List.length_take] at hlength
      omega
    refine ⟨.array enough few, fun name _ m hgiven => ?_⟩
    cases hgiven with
    | @array _ i _ _ hname hitem =>
        -- the name and the item at one place are a pair of the lists that are compared
        obtain ⟨hi, rfl⟩ := List.getElem?_eq_some_iff.mp hname
        obtain ⟨hi', rfl⟩ := List.getElem?_eq_some_iff.mp hitem
        have hfit := hfits i (by rw [hlength]; exact hi') hi'
        simpa only [List.get_eq_getElem, List.getElem_take] using hfit

theorem onArray_decode (context : String) (body : Octets) :
    schema.OnArray body (decode schema context body) where
  listed items hread hlisted := by
    obtain ⟨o, ho⟩ := exists_ofDocument?_array_iff.mpr hlisted
    exact ⟨o, decode_eq_ok_iff.mpr ⟨_, hread, ho⟩⟩
  unlisted items hread hlisted := by
    refine (decode_ok_or context body).resolve_left ?_
    rintro ⟨o, hdecode⟩
    obtain ⟨d, hd, ho⟩ := decode_eq_ok_iff.mp hdecode
    rw [hread] at hd
    cases hd
    exact hlisted (exists_ofDocument?_array_iff.mp ⟨o, ho⟩)

end Object

theorem Schema.OnArray.map {schema : Schema} {body : Octets} {outcome : Checked α}
    (h : schema.OnArray body outcome) (f : α → β) : schema.OnArray body (outcome.map f) where
  listed items hread hlisted := by
    obtain ⟨a, rfl⟩ := h.listed items hread hlisted
    exact ⟨f a, rfl⟩
  unlisted items hread hlisted := (h.unlisted items hread hlisted).map f

/-- A look-up by name reads what its kind does. -/
theorem Registry.onArray_decode {r : Registry Object} {name : String} {schema : Schema}
    (h : r.get? name = some (schema.kind.entry name)) (body : Octets) :
    schema.OnArray body (r.decode name body) := by
  rw [decode_eq_of_get? h, Schema.decode_entry]
  exact Object.onArray_decode schema.objectType body

/-! ## Verbs -/

namespace Verb

/-- A verb expects one object of a kind. -/
inductive ReadsOne : Schema → Verb → Prop
  | read (template : Object) (reference : String) (query : Query) :
    ReadsOne template.schema (.read template reference query)
  | readNamed {registry : Registry Object} {reference name : String} {schema : Schema}
    (query : Query) (hentry : registry.entryFor reference = .ok (schema.kind.entry name)) :
    ReadsOne schema (.readNamed registry reference query)

/-- Whether a verb expects a list of objects. -/
def isList : Verb → Bool
  | list _ _ => true
  | _ => false

/-- Whether a verb expects a reference, in text. -/
def isWrite : Verb → Bool
  | create _ | update _ _ | delete _ => true
  | _ => false

/-- What comes of a verb that is answered with a body of another shape than it expects. -/
structure HeedsShape (v : Verb) (body : Octets) (outcome : Checked Reply) : Prop where
  one : ∀ schema, v.ReadsOne schema → schema.OnArray body outcome
  list : v.isList = true → (∀ items, Document.read body ≠ some (.array items)) →
    Undecodable outcome
  text : v.isWrite = true → (∀ text?, Document.read body ≠ some (.string text?)) →
    Undecodable outcome

theorem heedsShape_decode (v : Verb) (body : Octets) : v.HeedsShape body (v.decode body) where
  one := by
    intro schema hone
    cases hone with
    | read template reference query =>
        exact ((Object.onArray_decode template.objectType body).map _).map _
    | @readNamed registry reference name schema query hentry =>
        have hdecode : decode (.readNamed registry reference query) body
            = (Object.decode schema schema.objectType body).map .object := by
          rw [← schema.decode_entry name]
          simp only [decode, hentry]
          rfl
        rw [hdecode]
        exact (Object.onArray_decode schema.objectType body).map _
  list := by
    intro hlist hshape
    cases v with
    | list pattern query =>
        exact (Object.undecodable_decodeList ("list of " ++ pattern.objectType) hshape).map _
    | _ => cases hlist
  text := by
    intro hwrite hshape
    cases v with
    | create | update | delete => exact (undecodable_decodeText _ hshape).map _
    | _ => cases hwrite

end Verb

/-- **What comes of a body of the wrong shape.** Of the names of the standard registry, and of every
verb whose request is answered with success: where one object is expected, an array is a decode
error unless it lists the members of an object in declared order, and then it is read. Where a list
is expected, what is no array is a decode error; where a reference is expected, what is no text. -/
theorem shapes_heeded (body : Octets) :
    (∀ (name : String) (schema : Schema),
      Registry.standard.get? name = some (schema.kind.entry name) →
      schema.OnArray body (Registry.standard.decode name body))
    ∧ ∀ {σ : Type} (link : Link σ) (w : World σ) (v : Verb) (q : Request) (response : Response),
      q ∈ (v.run link).newRequests w → link.Answers w q response → response.body = body →
        v.HeedsShape body ((v.run link).runIn w).1 := by
  refine ⟨fun name schema hname => Registry.onArray_decode hname body, ?_⟩
  rintro σ link w v q response hq hanswers rfl
  rw [Verb.run_of_answered hq hanswers]
  exact v.heedsShape_decode response.body

/-- A network view is read from an array of its members. -/
theorem array_read_as_object :
    let v := Verb.read { schema := .networkView } "networkview/ZG5z:default/true" {}
    let body := Text.Utf8.encode "[\"networkview/ZG5z:default/true\",\"default\",\"lab\"]"
    let w := World.start [.ok ⟨200, body⟩]
    (∃ items, Document.read body = some (.array items))
      ∧ (∃ o, ((v.run Link.scripted).runIn w).1 = .ok (.object o))
      ∧ (Registry.standard.decode "networkview" body).map Object.reference
        = .ok "networkview/ZG5z:default/true" := by
  intro v body w
  exact ⟨⟨_, rfl⟩, ⟨_, rfl⟩, rfl⟩

end GridClient
