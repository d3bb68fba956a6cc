import GridClient.Request.Endpoint

/-!
# `GridClient.Proofs.Request.Isolation` — where the parameters of a read end up

Two requests are compared that differ in the parameters of a read alone. A write takes nothing from
them. Of a read the criteria reach the body, and the proxy flag, the fields to return and the
filters reach the address. The proxy flag is the first pair of the query string, so switching it on
puts that pair in front and leaves the rest as it is.

## Contents
- `Snapshot.asking`: an object that asks for something else.
- `request_of_write`: a write depends on none of it.
- `requestBody_congr`, `url_of_read`: what the two parts of a read depend on.
- `querySuffix_proxy`: a query string that begins with the flag.
- `Request.SwitchedOn`: what the proxy flag does to a read.
- `Endpoint.request_isolates`: all of it.
-/

namespace GridClient

open Text

/-- The object with other fields to return and other criteria. -/
def Snapshot.asking (o : Snapshot) (returnFields : List String) (criteria : Criteria) : Snapshot :=
  { o with returnFields, criteria }

/-! ## Parts of a request -/

/-- The address of a write is that of its target. -/
theorem Host.url_of_write (h : Host) {operation : Operation} (hwrite : operation ≠ .get)
    (objectType reference : String) (returnFields : List String) (query : Query) :
    h.url operation objectType reference returnFields query
      = h.baseUrl ++ (if reference = "" then objectType else reference) := by
  unfold url
  rw [if_neg hwrite, String.append_empty]

/-- The body of a write is made of the object's type and fields at most. -/
theorem requestBody_of_write {operation : Operation} (hwrite : operation ≠ .get)
    {object object' : Option Snapshot}
    (hfields : object.map Snapshot.fields = object'.map Snapshot.fields) (reference : String)
    (query query' : Query) :
    requestBody operation object reference query
      = requestBody operation object' reference query' := by
  cases operation with
  | create | update => exact hfields
  | delete => rfl
  | get => exact absurd rfl hwrite

/-- **A write takes nothing from the parameters of a read**, neither from the query nor from what
its object asks for. -/
theorem Endpoint.request_of_write (e : Endpoint) {operation : Operation} (hwrite : operation ≠ .get)
    (object : Option Snapshot) (reference : String) (query query' : Query)
    (returnFields : List String) (criteria : Criteria) :
    e.request operation (object.map (·.asking returnFields criteria)) reference query'
      = e.request operation object reference query := by
  have hfields : (object.map (·.asking returnFields criteria)).map Snapshot.fields
      = object.map Snapshot.fields := by
    cases object <;> rfl
  have htype : (object.map (·.asking returnFields criteria)).map Snapshot.objectType
      = object.map Snapshot.objectType := by
    cases object <;> rfl
  unfold request
  rw [e.host.url_of_write hwrite, e.host.url_of_write hwrite, htype,
    requestBody_of_write hwrite hfields reference query' query]

/-- The body of a read is made of the object's fields and the criteria. -/
theorem requestBody_congr {object object' : Option Snapshot}
    (hfields : object.map Snapshot.fields = object'.map Snapshot.fields)
    (hobject : object.map Snapshot.criteria = object'.map Snapshot.criteria)
    {query query' : Query} (hquery : query.criteria = query'.criteria) (reference : String) :
    requestBody .get object reference query = requestBody .get object' reference query' := by
  unfold requestBody searchCriteria
  rw [hfields, hobject, hquery]

/-- The address of a read is that of its target with its pairs, among which there are no
criteria. -/
theorem Endpoint.url_of_read (e : Endpoint) (object : Option Snapshot) (reference : String)
    (query : Query) :
    (e.request .get object reference query).url
      = e.host.baseUrl
        ++ (if reference = "" then (object.map Snapshot.objectType).getD "" else reference)
        ++ querySuffix (query.pairs ((object.map Snapshot.returnFields).getD [])) := rfl

/-! ## The proxy flag -/

/-- The flag is the first pair. -/
theorem Query.pairs_withProxy (query : Query) (returnFields : List String) :
    (query.withProxy true).pairs returnFields
      = ("_proxy_search", "GM") :: (query.withProxy false).pairs returnFields := rfl

theorem querySuffix_eq (pairs : List (String × String)) :
    querySuffix pairs = if pairs = [] then "" else "?" ++ String.ofList (queryString pairs) := by
  unfold querySuffix
  simp only [List.isEmpty_iff, String.ofList_cons]
  rfl

/-- The flag has no character that is encoded. -/
theorem encodePair_proxy :
    String.ofList (encodePair ("_proxy_search", "GM")) = "_proxy_search=GM" := by decide

/-- The flag begins the query string, and an ampersand divides it from what follows. -/
theorem querySuffix_proxy (pairs : List (String × String)) :
    querySuffix (("_proxy_search", "GM") :: pairs)
      = "?_proxy_search=GM"
        ++ (if pairs = [] then "" else "&" ++ String.ofList (queryString pairs)) := by
  have hstart : "?" ++ String.ofList (encodePair ("_proxy_search", "GM"))
      = "?_proxy_search=GM" := by
    rw [encodePair_proxy]
    rfl
  rw [querySuffix_eq, if_neg (List.cons_ne_nil _ pairs), ← hstart, ← String.toList_inj]
  cases pairs with
  | nil => simp [queryString, join]
  | cons next pairs => simp [queryString, join]

/-- A read with the proxy flag and the same read without it: nothing but the address differs, and
there the flag is the first pair of the query string, which it begins where there is none. -/
structure Request.SwitchedOn (target : String) (pairs : List (String × String))
    (direct proxied : Request) : Prop where
  method_eq : proxied.method = direct.method
  headers_eq : proxied.headers = direct.headers
  body_eq : proxied.body = direct.body
  direct_url : direct.url
    = target ++ (if pairs = [] then "" else "?" ++ String.ofList (queryString pairs))
  proxied_url : proxied.url
    = target ++ ("?_proxy_search=GM"
      ++ (if pairs = [] then "" else "&" ++ String.ofList (queryString pairs)))

/-- **What the proxy flag does.** -/
theorem Endpoint.switchedOn (e : Endpoint) (object : Option Snapshot) (reference : String)
    (query : Query) :
    Request.SwitchedOn
      (e.host.baseUrl
        ++ if reference = "" then (object.map Snapshot.objectType).getD "" else reference)
      ((query.withProxy false).pairs ((object.map Snapshot.returnFields).getD []))
      (e.request .get object reference (query.withProxy false))
      (e.request .get object reference (query.withProxy true)) where
  method_eq := rfl
  headers_eq := rfl
  body_eq := rfl
  direct_url := by rw [e.url_of_read, querySuffix_eq]
  proxied_url := by rw [e.url_of_read, Query.pairs_withProxy, querySuffix_proxy]

/-! ## The theorem -/

/-- **The parameters of a read reach one place each.** A write is the same whatever the query says
and whatever its object asks for. Reads of one object that differ in their queries agree in method
and headers; the body has nothing of proxy flag, fields to return and filters, and the address
nothing of criteria. The proxy flag puts one pair in front of the query string. -/
theorem Endpoint.request_isolates (e : Endpoint) (object : Option Snapshot) (reference : String)
    (query query' : Query) (returnFields : List String) (criteria : Criteria) :
    (∀ operation, operation ≠ .get →
      e.request operation (object.map (·.asking returnFields criteria)) reference query'
        = e.request operation object reference query)
    ∧ (e.request .get object reference query').method
        = (e.request .get object reference query).method
    ∧ (e.request .get object reference query').headers
        = (e.request .get object reference query).headers
    ∧ (e.request .get (object.map fun o => o.asking returnFields o.criteria) reference
          { query' with criteria := query.criteria }).body
        = (e.request .get object reference query).body
    ∧ (e.request .get (object.map fun o => o.asking o.returnFields criteria) reference
          { query with criteria := query'.criteria }).url
        = (e.request .get object reference query).url
    ∧ Request.SwitchedOn
        (e.host.baseUrl
          ++ if reference = "" then (object.map Snapshot.objectType).getD "" else reference)
        ((query.withProxy false).pairs ((object.map Snapshot.returnFields).getD []))
        (e.request .get object reference (query.withProxy false))
        (e.request .get object reference (query.withProxy true)) := by
  refine ⟨fun operation hwrite => e.request_of_write hwrite object reference query query'
    returnFields criteria, rfl, rfl, ?_, ?_, e.switchedOn object reference query⟩
  · have hbody : requestBody .get (object.map fun o => o.asking returnFields o.criteria) reference
          { query' with criteria := query.criteria }
        = requestBody .get object reference query := by
      refine requestBody_congr ?_ ?_ rfl reference
      · cases object <;> rfl
      · cases object <;> rfl
    exact congrArg (Option.map bodyOctets) hbody
  · cases object <;> rfl

end GridClient
