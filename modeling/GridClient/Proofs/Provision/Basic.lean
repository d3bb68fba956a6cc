import GridClient.Proofs.Checked
import GridClient.Proofs.Request.Url
import GridClient.Proofs.Session.Exchange
import GridClient.Provision.Basic

/-!
# `GridClient.Proofs.Provision.Basic` — reading one object by its reference

## Contents
- `Query.pairs_proxied`: the parameters of a provisioner's reads.
- `Provisioner.Asks`: what the request says; `Provisioner.readRequest`, `asks_readRequest`: the
  request.
- `Provisioner.runIn_read`: the run; `ReadsBack`, `readsBack_read`: what it comes to, by the answer.
-/

namespace GridClient

/-- The type of an object that has nothing but a kind is the kind's own. -/
theorem Object.objectType_of_schema (schema : Schema) :
    ({ schema } : Object).objectType = schema.objectType := by
  simp [objectType, isV6, FieldValues.none]

/-- The reference of the object with a reference. -/
theorem Object.withReference_eq (o : Object) (reference : String) :
    o.withReference reference
      = { o with reference := if o.reference = "" then reference else o.reference } := by
  unfold withReference
  by_cases h : o.reference = ""
  · rw [if_pos h, if_pos h]
  · rw [if_neg h, if_neg h]

/-- A read asks for some fields, whatever the kind. -/
theorem Schema.returnFields_ne_nil (schema : Schema) : schema.returnFields.isEmpty = false := by
  cases schema <;> rfl

/-- A read asks for some fields, whatever the object. -/
theorem Object.effectiveReturnFields_ne_nil (o : Object) :
    o.effectiveReturnFields.isEmpty = false := by
  unfold effectiveReturnFields
  split
  · exact o.schema.returnFields_ne_nil
  · rename_i hsome
    exact Bool.eq_false_iff.mpr hsome

/-- The pairs of a read that sets nothing but the proxy flag. -/
theorem Query.pairs_proxied (forceProxy : Bool) {returnFields : List String}
    (h : returnFields.isEmpty = false) :
    (proxied forceProxy).pairs returnFields
      = (if forceProxy then [("_proxy_search", "GM")] else [])
        ++ [("_return_fields", String.intercalate "," returnFields)] := by
  show (if forceProxy then _ else _) ++ (if returnFields.isEmpty then [] else _) ++ [] = _
  rw [h, List.append_nil]
  rfl

namespace Provisioner

variable {σ : Type}

/-- The request that reads an object by its reference, with all that a read of its kind asks
for. -/
def readRequest (p : Provisioner σ) (schema : Schema) (reference : String) : Request where
  method := .get
  url := p.link.endpoint.host.baseUrl ++ reference
    ++ querySuffix ((if p.forceProxy then [("_proxy_search", "GM")] else [])
      ++ [("_return_fields", String.intercalate "," schema.returnFields)])
  headers := p.link.endpoint.headers
  body := none

/-- A request asks for the object of a kind with a reference. Its address is the reference, with a
query string in which all fields of the kind are asked for, and it has no body. -/
structure Asks (p : Provisioner σ) (schema : Schema) (reference : String) (q : Request) : Prop where
  method : q.method = .get
  url : ∃ query : List Char,
    q.url = p.link.endpoint.host.baseUrl ++ reference ++ String.ofList ('?' :: query)
    ∧ readQueryString? query = some ((if p.forceProxy then [("_proxy_search", "GM")] else [])
        ++ [("_return_fields", String.intercalate "," schema.returnFields)])
  headers : q.headers = p.link.endpoint.headers
  body : q.body = none

theorem asks_readRequest (p : Provisioner σ) (schema : Schema) (reference : String) :
    p.Asks schema reference (p.readRequest schema reference) where
  method := rfl
  url := by
    refine ⟨_, ?_, readQueryString?_queryString ?_⟩
    · unfold readRequest querySuffix
      rw [if_neg (by simp)]
    · simp
  headers := rfl
  body := rfl

theorem reading_of_schema (p : Provisioner σ) (schema : Schema) {reference : String}
    (href : reference ≠ "") :
    p.link.endpoint.reading { schema } reference p.readQuery = p.readRequest schema reference := by
  have hpairs := Query.pairs_proxied p.forceProxy ({ schema } : Object).effectiveReturnFields_ne_nil
  unfold readQuery
  rw [Endpoint.reading_eq _ _ _ href, hpairs]
  rfl

/-- A read by a reference that is not blank is one request, and its answer the object. -/
theorem runIn_read (p : Provisioner σ) (schema : Schema) {reference : String}
    (href : Text.isBlankText reference = false) {w : World σ} (h : w.phase ≠ .closed) :
    (p.read schema reference).runIn w
      = (p.link.outcome (p.readRequest schema reference) reference w
            >>= fun body => (Object.decode schema schema.objectType body).map
              (·.withReference reference),
          p.link.after (p.readRequest schema reference) w) := by
  have hne := ne_empty_of_nonblank href
  unfold read
  rw [Session.runIn_lift_bind (require_of_nonblank "reference" href),
    p.link.runIn_read { schema } p.readQuery hne h, Object.objectType_of_schema,
    reading_of_schema p schema hne]

/-- A run reads the object of a kind with a reference: it sends one request, and fails as its answer
fails, or yields the object in the answer, which has the reference if the answer gives none. -/
structure ReadsBack (p : Provisioner σ) (schema : Schema) (reference : String) (get : Request)
    (w : World σ) (run : Checked Object × World σ) : Prop where
  asks : p.Asks schema reference get
  world : run.2 = p.link.after get w
  unanswered : ∀ e, p.link.answer get w = .error e → run.1 = .error e
  refused : ∀ response, p.link.answer get w = .ok response → response.isSuccess = false →
    ∃ e, response.check reference = .error e ∧ run.1 = .error e
  unreadable : ∀ response, p.link.answer get w = .ok response → response.isSuccess = true →
    Object.read? schema response.body = none → run.1 = .error (.decode schema.objectType)
  object : ∀ response o, p.link.answer get w = .ok response → response.isSuccess = true →
    Object.read? schema response.body = some o →
    run.1 = .ok { o with reference := if o.reference = "" then reference else o.reference }

/-- **A read by its answer.** -/
theorem readsBack_read (p : Provisioner σ) (schema : Schema) {reference : String}
    (href : Text.isBlankText reference = false) {w : World σ} (h : w.phase ≠ .closed) :
    p.ReadsBack schema reference (p.readRequest schema reference) w
      ((p.read schema reference).runIn w) := by
  rw [p.runIn_read schema href h]
  constructor
  case asks => exact p.asks_readRequest schema reference
  case world => rfl
  case unanswered =>
    intro e he
    show p.link.outcome _ reference w >>= _ = _
    rw [Link.outcome_of_error he]
    rfl
  case refused =>
    intro response hanswer hfailure
    obtain ⟨e, hcheck, he⟩ := Link.outcome_of_failure hanswer hfailure reference
    refine ⟨e, hcheck, ?_⟩
    show p.link.outcome _ reference w >>= _ = _
    rw [he]
    rfl
  case unreadable =>
    intro response hanswer hsuccess hnone
    show p.link.outcome _ reference w >>= _ = _
    rw [Link.outcome_of_success hanswer hsuccess]
    simp only [bind, Except.bind, Object.decode, hnone]
    rfl
  case object =>
    intro response o hanswer hsuccess hsome
    show p.link.outcome _ reference w >>= _ = _
    rw [Link.outcome_of_success hanswer hsuccess, ← o.withReference_eq]
    simp only [bind, Except.bind, Object.decode, hsome]
    rfl

end Provisioner
end GridClient
