import GridClient.Request.Endpoint

/-!
# `GridClient.Proofs.Request.Layers` — headers set layer upon layer

A layer of headers is put around whatever makes requests. It hands addresses and bodies through as
they are and sets its headers on every request, each in place of any of the same name. So a stack of
layers does what one layer with all their headers does, from the innermost to the outermost.

## Contents
- `Headers.Distinct`: no two headers of one name; `Distinct.set`, `Distinct.setAll`.
- `Headers.last?`: the last value for a name; `get?_set`, `get?_setAll`: what is found afterwards.
- `foldl_setAll`: layers set one after the other are set at once.
- `Builder`, `Builder.layered`: what makes requests, and the same with a layer around it;
  `Endpoint.builder_foldl_layered`: an endpoint's layers are such layers.
- `Builder.stack_flattens`: any stack around any endpoint.
-/

namespace GridClient

open Text

/-! ## Headers -/

namespace Headers

variable {headers : Headers}

/-- No two headers have the same name. -/
def Distinct (headers : Headers) : Prop :=
  headers.Pairwise fun h k => sameIgnoringCase h.1 k.1 = false

/-- The value of the last header with a name. -/
def last? (headers : Headers) (name : String) : Option String :=
  (headers.filter fun h => sameIgnoringCase h.1 name).getLast?.map Prod.snd

@[simp] theorem last?_nil (name : String) : last? [] name = none := rfl

/-- A header is the last of its name where no later one has that name. -/
theorem last?_cons (h : String × String) (headers : Headers) (name : String) :
    last? (h :: headers) name
      = (headers.last? name).or (if sameIgnoringCase h.1 name = true then some h.2 else none) := by
  unfold last?
  rw [List.filter_cons]
  by_cases hname : sameIgnoringCase h.1 name = true
  · rw [if_pos hname, if_pos hname, List.getLast?_cons]
    cases (headers.filter fun h => sameIgnoringCase h.1 name).getLast? <;> rfl
  · rw [if_neg hname, if_neg hname, Option.or_none]

/-- **Setting a header** changes what is found under its name, and under no other. -/
theorem get?_set (headers : Headers) (name value other : String) :
    (headers.set name value).get? other
      = if sameIgnoringCase name other = true then some value else headers.get? other := by
  unfold set get?
  rw [List.find?_append]
  by_cases hname : sameIgnoringCase name other = true
  · -- all headers with the other name have been dropped, for they have the one that is set
    have hdropped : (headers.filter fun h => !sameIgnoringCase h.1 name).find?
        (fun h => sameIgnoringCase h.1 other) = none := by
      rw [List.find?_eq_none]
      intro h hmem hother
      have hkept : sameIgnoringCase h.1 name = false := by simpa using (List.mem_filter.mp hmem).2
      rw [sameIgnoringCase_congr hname] at hkept
      exact absurd hother (by simp [hkept])
    rw [hdropped, if_pos hname]
    simp [hname]
  · -- a header with the other name does not have the one that is set, so it has been kept
    have hkept : (headers.filter fun h => !sameIgnoringCase h.1 name).find?
        (fun h => sameIgnoringCase h.1 other)
        = headers.find? fun h => sameIgnoringCase h.1 other := by
      rw [List.find?_filter]
      congr 1
      funext h
      by_cases hother : sameIgnoringCase h.1 other = true
      · have hne : sameIgnoringCase h.1 name = false := by
          rw [← sameIgnoringCase_congr (c := name) hother] at hname
          simpa [sameIgnoringCase_symm] using hname
        simp [hother, hne]
      · simp [hother]
    rw [hkept, if_neg hname]
    simp [hname]

/-- **Setting headers in order** leaves the last value for a name, or else the one that was
there. -/
theorem get?_setAll (headers added : Headers) (name : String) :
    (headers.setAll added).get? name = (added.last? name).or (headers.get? name) := by
  induction added generalizing headers with
  | nil => rfl
  | cons h added ih =>
      have hstep : headers.setAll (h :: added) = (headers.set h.1 h.2).setAll added := rfl
      rw [hstep, ih, get?_set, last?_cons, Option.or_assoc]
      by_cases hname : sameIgnoringCase h.1 name = true
      · simp [hname]
      · simp [hname]

/-- A header that is set is the only one of its name. -/
theorem Distinct.set (hdistinct : headers.Distinct) (name value : String) :
    (headers.set name value).Distinct := by
  unfold Headers.set
  apply List.pairwise_append.mpr
  refine ⟨hdistinct.filter _, List.pairwise_singleton _ _, ?_⟩
  intro h hmem k hk
  rw [List.mem_singleton.mp hk]
  simpa using (List.mem_filter.mp hmem).2

theorem Distinct.setAll (hdistinct : headers.Distinct) (added : Headers) :
    (headers.setAll added).Distinct := by
  induction added generalizing headers with
  | nil => exact hdistinct
  | cons h added ih => exact ih (hdistinct.set h.1 h.2)

/-- **Layers set one after the other are set at once.** -/
theorem foldl_setAll (layers : List Headers) (headers : Headers) :
    layers.foldl setAll headers = headers.setAll layers.flatten := by
  unfold setAll
  rw [List.foldl_flatten]

end Headers

/-! ## What makes requests -/

/-- What makes requests: their addresses, their bodies, and the complete requests. -/
structure Builder where
  url : Operation → String → String → List String → Query → String
  body : Operation → Option Snapshot → String → Query → Option Octets
  request : Operation → Option Snapshot → String → Query → Request

/-- An endpoint makes requests. -/
def Endpoint.builder (e : Endpoint) : Builder where
  url := e.host.url
  body operation object reference query :=
    (requestBody operation object reference query).map bodyOctets
  request := e.request

namespace Builder

/-- A layer of headers around what makes requests. Addresses and bodies are those of the inner one;
a request is the inner one's with all the headers set on it. -/
def layered (inner : Builder) (headers : Headers) : Builder where
  url := inner.url
  body := inner.body
  request operation object reference query :=
    headers.foldl (fun r h => r.setHeader h.1 h.2) (inner.request operation object reference query)

/-- Setting headers on a request sets them among its headers. -/
theorem foldl_setHeader (added : Headers) (r : Request) :
    added.foldl (fun r h => r.setHeader h.1 h.2) r
      = { r with headers := r.headers.setAll added } := by
  induction added generalizing r with
  | nil => rfl
  | cons h added ih =>
      rw [List.foldl_cons, ih]
      rfl

end Builder

namespace Endpoint

/-- A layer of an endpoint is a layer around what the endpoint makes. -/
theorem builder_layered (e : Endpoint) (headers : Headers) :
    (e.layered headers).builder = e.builder.layered headers := by
  have hrequest : ∀ operation object reference query,
      (e.layered headers).request operation object reference query
        = headers.foldl (fun r h => r.setHeader h.1 h.2)
          (e.request operation object reference query) := by
    intro operation object reference query
    rw [Builder.foldl_setHeader]
    simp [request, layered, baseHeaders]
  unfold builder Builder.layered
  congr 1
  funext operation object reference query
  exact hrequest operation object reference query

/-- **A stack of layers** around what an endpoint makes is what the endpoint with those layers
makes. -/
theorem builder_foldl_layered (e : Endpoint) (layers : List Headers) :
    layers.foldl Builder.layered e.builder = (layers.foldl layered e).builder := by
  induction layers generalizing e with
  | nil => rfl
  | cons headers layers ih => rw [List.foldl_cons, List.foldl_cons, ← builder_layered, ih]

theorem foldl_layered (e : Endpoint) (layers : List Headers) :
    layers.foldl layered e = { e with layers := e.layers ++ layers } := by
  induction layers generalizing e with
  | nil => simp
  | cons headers layers ih => simp [ih, layered]

/-- Before any layer is put on, no two headers have the same name. -/
theorem distinct_baseHeaders (e : Endpoint) : e.baseHeaders.Distinct := by
  have hnames : sameIgnoringCase "Content-Type" "Authorization" = false := by decide
  simp [baseHeaders, Headers.Distinct, hnames]

end Endpoint

/-! ## The theorem -/

/-- **A stack of layers is one layer.** Whatever stack of layers stands around an endpoint without
any, addresses and bodies are those of the endpoint, and so are the methods of its requests. No two
headers of a request have the same name. Under each name stands the last value that the layers give
it, from the innermost to the outermost, or else the endpoint's own. A single layer with the headers
of all of them makes the same requests, and so does the endpoint with those layers. -/
theorem Builder.stack_flattens (host : Host) (credentials : Credentials) (layers : List Headers)
    (operation : Operation) (object : Option Snapshot) (reference : String) (query : Query) :
    let base := Endpoint.builder { host, credentials }
    let stack := layers.foldl Builder.layered base
    let plain := base.request operation object reference query
    let request := stack.request operation object reference query
    stack.url = base.url ∧ stack.body = base.body
    ∧ request.method = plain.method ∧ request.url = plain.url ∧ request.body = plain.body
    ∧ request.headers.Distinct
    ∧ (∀ name, request.headers.get? name
        = (Headers.last? layers.flatten name).or (plain.headers.get? name))
    ∧ request = (base.layered layers.flatten).request operation object reference query
    ∧ request = ({ host, credentials, layers } : Endpoint).request operation object reference
        query := by
  intro base stack plain request
  let e : Endpoint := { host, credentials }
  have hstack : stack = ({ host, credentials, layers } : Endpoint).builder := by
    show layers.foldl Builder.layered e.builder = _
    rw [e.builder_foldl_layered, e.foldl_layered, List.nil_append]
  have hrequest : request = { plain with headers := plain.headers.setAll layers.flatten } := by
    show stack.request operation object reference query = _
    rw [hstack, ← Headers.foldl_setAll]
    rfl
  have hdistinct : plain.headers.Distinct := e.distinct_baseHeaders
  refine ⟨?_, ?_, ?_, ?_, ?_, ?_, ?_, ?_, ?_⟩
  · rw [hstack]
    rfl
  · rw [hstack]
    rfl
  · rw [hrequest]
  · rw [hrequest]
  · rw [hrequest]
  · rw [hrequest]
    exact hdistinct.setAll layers.flatten
  · intro name
    rw [hrequest]
    exact plain.headers.get?_setAll layers.flatten name
  · rw [hrequest]
    exact (foldl_setHeader layers.flatten plain).symm
  · show stack.request operation object reference query = _
    rw [hstack]
    rfl

end GridClient
