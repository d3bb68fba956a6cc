import GridClient.Proofs.Request.Layers
import GridClient.Proofs.Settings.Descriptions
import Mathlib.Data.List.Forall2

/-!
# `GridClient.Proofs.Request.Secrets` — what descriptions keep to themselves

The description of a request has a fixed text in place of every value of credentials, under however
many headers of that name and in whatever case. All else is in it. So two requests have the same
description exactly if they differ in such values at most, and whatever the password of an account
is, its requests are described in the same way.

## Contents
- `Headers.hide`, `SameButSecrets`, `redact_eq_iff`: what is left of headers when credentials are
  hidden; `redact_setAll_congr`: layers of headers leave it so.
- `Headers.replaceSecrets`: other credentials in place of those that are there.
- `Endpoint.sameButSecrets_headers`: requests for two accounts.
- `Endpoint.describe_eq_iff`, `Request.describe_eq_iff`: what is told from descriptions.
- `Request.secrets_hidden`: all of it.
-/

namespace GridClient

open Text

/-! ## Headers -/

namespace Headers

/-- A header with its value hidden if that is one of credentials. -/
def hide (h : String × String) : String × String :=
  if sameIgnoringCase h.1 "authorization" then (h.1, "<REDACTED>") else h

@[simp] theorem hide_fst (h : String × String) : (hide h).1 = h.1 := by
  unfold hide
  split <;> rfl

theorem redact_eq_map (headers : Headers) : headers.redact = headers.map hide := rfl

/-- Two headers with the same name, and with the same value unless it is one of credentials. -/
def SameButSecret (h k : String × String) : Prop :=
  h.1 = k.1 ∧ (sameIgnoringCase h.1 "authorization" = true ∨ h.2 = k.2)

theorem hide_eq_iff {h k : String × String} : hide h = hide k ↔ SameButSecret h k := by
  obtain ⟨name, value⟩ := h
  obtain ⟨name', value'⟩ := k
  unfold SameButSecret
  by_cases hname : name = name'
  · subst hname
    by_cases hsecret : sameIgnoringCase name "authorization" = true
    · simp [hide, hsecret]
    · simp [hide, hsecret]
  · -- names are never hidden
    have hne : hide (name, value) ≠ hide (name', value') := by
      intro heq
      have hnames := congrArg Prod.fst heq
      rw [hide_fst, hide_fst] at hnames
      exact hname hnames
    simp [hne, hname]

/-- Headers that are the same in all places, but for values of credentials. -/
def SameButSecrets : Headers → Headers → Prop := List.Forall₂ SameButSecret

/-- **What is left when credentials are hidden** is everything else. -/
theorem redact_eq_iff {headers headers' : Headers} :
    headers.redact = headers'.redact ↔ headers.SameButSecrets headers' := by
  rw [redact_eq_map, redact_eq_map, ← List.forall₂_eq_eq_eq, List.forall₂_map_left_iff,
    List.forall₂_map_right_iff]
  simp only [hide_eq_iff]
  rfl

theorem redact_set (headers : Headers) (name value : String) :
    (headers.set name value).redact
      = headers.redact.filter (fun h => !sameIgnoringCase h.1 name) ++ [hide (name, value)] := by
  rw [redact_eq_map, redact_eq_map, set, List.map_append, List.filter_map, List.map_singleton]
  -- headers are dropped by their names, which stay as they are when values are hidden
  simp only [Function.comp_def, hide_fst]

/-- **Headers that are set** leave the same where the same was left before. -/
theorem redact_setAll_congr {headers headers' : Headers} (h : headers.redact = headers'.redact)
    (added : Headers) : (headers.setAll added).redact = (headers'.setAll added).redact := by
  induction added generalizing headers headers' with
  | nil => exact h
  | cons a added ih =>
      apply ih
      rw [redact_set, redact_set, h]

/-- The headers with other values of credentials, chosen place by place. -/
def replaceSecrets (values : Nat → String) (headers : Headers) : Headers :=
  headers.mapIdx fun i h => if sameIgnoringCase h.1 "authorization" then (h.1, values i) else h

theorem redact_replaceSecrets (values : Nat → String) (headers : Headers) :
    (headers.replaceSecrets values).redact = headers.redact := by
  apply List.ext_getElem
  · simp [redact_eq_map, replaceSecrets]
  · intro i hi hi'
    simp only [redact_eq_map, replaceSecrets, List.getElem_map, List.getElem_mapIdx]
    rw [hide_eq_iff]
    have hin : i < headers.length := by simpa [redact_eq_map] using hi'
    by_cases hsecret : sameIgnoringCase headers[i].1 "authorization" = true
    · rw [if_pos hsecret]
      exact ⟨rfl, .inl hsecret⟩
    · rw [if_neg hsecret]
      exact ⟨rfl, .inr rfl⟩

end Headers

/-! ## Requests -/

namespace Method

theorem selfDelimiting_describe : SelfDelimiting describe := by
  intro m m' rest rest' h
  cases m <;> cases m' <;> simp [describe] at h ⊢

@[simp] theorem toldApart_describe (m m' : Method) : ToldApart m.describe m'.describe :=
  selfDelimiting_describe.toldApart m m'

@[simp] theorem describe_inj {m m' : Method} : m.describe = m'.describe ↔ m = m' :=
  selfDelimiting_describe.inj

end Method

namespace Endpoint

/-- **Of an endpoint the host and the user name are told.** -/
theorem describe_eq_iff {e e' : Endpoint} :
    e.describe = e'.describe
      ↔ e.host = e'.host ∧ e.credentials.username = e'.credentials.username := by
  unfold describe
  rw [record_inj]
  · simp
  · simp

/-- Whose account it is shows in the headers of a request in values of credentials only. -/
theorem sameButSecrets_headers (host : Host) (c c' : Credentials) (layers : List Headers)
    (operation : Operation) (object : Option Snapshot) (reference : String) (query : Query) :
    Headers.SameButSecrets
      (({ host, credentials := c, layers } : Endpoint).request operation object reference
        query).headers
      (({ host, credentials := c', layers } : Endpoint).request operation object reference
        query).headers := by
  have hbase : Headers.redact (baseHeaders { host, credentials := c, layers })
      = Headers.redact (baseHeaders { host, credentials := c', layers }) := by
    have hsecret : sameIgnoringCase "Authorization" "authorization" = true := by decide
    simp [baseHeaders, Headers.redact_eq_map, Headers.hide, hsecret]
  rw [← Headers.redact_eq_iff]
  simp only [request, Headers.foldl_setAll]
  exact Headers.redact_setAll_congr hbase layers.flatten

end Endpoint

namespace Request

/-- A header as it is shown. -/
def shownHeader (h : String × String) : String := "(" ++ quote h.1 ++ ", " ++ quote h.2 ++ ")"

theorem selfDelimiting_shownHeader : SelfDelimiting shownHeader := by
  intro h k rest rest' hsame
  simp only [shownHeader, String.toList_append, List.append_assoc, List.append_cancel_left_eq,
    quote_append_inj] at hsame
  exact Prod.ext hsame.1 hsame.2.1

theorem selfDelimiting_shownHeaders :
    SelfDelimiting fun headers : Headers => showList (headers.map shownHeader) :=
  selfDelimiting_shownHeader.list (show '(' ≠ ']' by decide) (by simp [shownHeader])

/-- **Of a request everything but the values of credentials is told.** -/
theorem describe_eq_iff {r r' : Request} :
    r.describe = r'.describe
      ↔ r.method = r'.method ∧ r.url = r'.url ∧ r.headers.SameButSecrets r'.headers
        ∧ r.bodyText = r'.bodyText := by
  show record "HttpRequest"
      [("method", r.method.describe), ("url", quote r.url),
        ("headers", showList (r.headers.redact.map shownHeader)), ("body", quote r.bodyText)]
    = record "HttpRequest"
      [("method", r'.method.describe), ("url", quote r'.url),
        ("headers", showList (r'.headers.redact.map shownHeader)), ("body", quote r'.bodyText)]
    ↔ _
  rw [record_inj]
  · simp [selfDelimiting_shownHeaders.inj, Headers.redact_eq_iff]
  · simp [selfDelimiting_shownHeaders.toldApart]

/-- **Secrets are not told.** For any two passwords of an account, whatever else is set, whatever
layers of headers there are and whatever a request is for, the descriptions of the account, of the
settings, of the endpoint and of the request are the same. Nor does a request's description change
with the values of its credentials, however many there are. And this is all that descriptions leave
out: two of them are the same exactly if all else is. -/
theorem secrets_hidden (host : Host) (username : String) (transport : TransportSettings)
    (layers : List Headers) (operation : Operation) (object : Option Snapshot) (reference : String)
    (query : Query) (password password' : String) :
    let c : Credentials := ⟨username, password⟩
    let c' : Credentials := ⟨username, password'⟩
    let stack (c : Credentials) : Builder :=
      layers.foldl Builder.layered (Endpoint.builder { host, credentials := c })
    (c.describe = c'.describe
      ∧ Settings.describe ⟨host, c, transport⟩ = Settings.describe ⟨host, c', transport⟩
      ∧ Endpoint.describe ⟨host, c, layers⟩ = Endpoint.describe ⟨host, c', layers⟩
      ∧ ((stack c).request operation object reference query).describe
        = ((stack c').request operation object reference query).describe)
    ∧ (∀ (r : Request) (values : Nat → String),
        { r with headers := r.headers.replaceSecrets values }.describe = r.describe)
    ∧ (∀ c c' : Credentials, c.describe = c'.describe ↔ c.username = c'.username)
    ∧ (∀ s s' : Settings, s.describe = s'.describe
        ↔ s.host = s'.host ∧ s.credentials.username = s'.credentials.username
          ∧ s.transport = s'.transport)
    ∧ (∀ e e' : Endpoint, e.describe = e'.describe
        ↔ e.host = e'.host ∧ e.credentials.username = e'.credentials.username)
    ∧ ∀ r r' : Request, r.describe = r'.describe
        ↔ r.method = r'.method ∧ r.url = r'.url ∧ r.headers.SameButSecrets r'.headers
          ∧ r.bodyText = r'.bodyText := by
  intro c c' stack
  -- a stack of layers is what the endpoint with those layers makes
  have hstack : ∀ c : Credentials, stack c
      = ({ host, credentials := c, layers } : Endpoint).builder := by
    intro c
    let e : Endpoint := { host, credentials := c }
    show layers.foldl Builder.layered e.builder = _
    rw [e.builder_foldl_layered, e.foldl_layered, List.nil_append]
  refine ⟨⟨?_, ?_, ?_, ?_⟩, ?_, fun _ _ => Credentials.describe_eq_iff,
    fun _ _ => Settings.describe_eq_iff, fun _ _ => Endpoint.describe_eq_iff,
    fun _ _ => describe_eq_iff⟩
  · exact Credentials.describe_eq_iff.mpr rfl
  · exact Settings.describe_eq_iff.mpr ⟨rfl, rfl, rfl⟩
  · exact Endpoint.describe_eq_iff.mpr ⟨rfl, rfl⟩
  · rw [hstack, hstack]
    exact describe_eq_iff.mpr ⟨rfl, rfl, Endpoint.sameButSecrets_headers .., rfl⟩
  · intro r values
    exact describe_eq_iff.mpr
      ⟨rfl, rfl, Headers.redact_eq_iff.mp (r.headers.redact_replaceSecrets values), rfl⟩

end Request
end GridClient
