import GridClient.Json.Printer
import GridClient.Request.Snapshot
import GridClient.Request.Url
import GridClient.Text.Base64

/-!
# `GridClient.Request.Endpoint` — from an operation to a request

## Contents
- `Snapshot.body`: the fields that a request carries.
- `Endpoint`: a host, an account and layers of extra headers, innermost first.
- `Endpoint.request`: the complete request.
-/

namespace GridClient

open Text

/-! ## Bodies -/

/-- The criteria that select objects: the query's over the object's. -/
def searchCriteria (object : Option Snapshot) (query : Query) : Criteria :=
  ((object.map Snapshot.criteria).getD ∅).overlay query.criteria

/-- The fields that a request carries. Writes carry the object's fields; a search carries them with
the criteria, unless that leaves nothing; a read of one object and a deletion carry none. -/
def requestBody (operation : Operation) (object : Option Snapshot) (reference : String)
    (query : Query) : Option Fields :=
  match operation with
  | .create | .update => object.map Snapshot.fields
  | .delete => none
  | .get =>
    if reference = "" then
      let fields := Fields.setAll ((object.map Snapshot.fields).getD [])
        (searchCriteria object query).wireFields
      if fields.isEmpty then none else some fields
    else none

/-- The octets of a body. -/
def bodyOctets (fields : Fields) : Octets := Utf8.encode (Json.object fields).text

/-! ## Endpoints -/

/-- Where requests go and what they carry besides their own content. -/
structure Endpoint where
  host : Host
  credentials : Credentials
  /-- Headers set on every request, layer by layer. -/
  layers : List Headers := []

/-- The value that presents an account to the server. -/
def Credentials.authorization (c : Credentials) : String :=
  "Basic " ++ String.ofList (Base64.encode (Utf8.encode (c.username ++ ":" ++ c.password)))

namespace Endpoint

/-- The endpoint with one more layer of headers around it. -/
def layered (e : Endpoint) (headers : Headers) : Endpoint :=
  { e with layers := e.layers ++ [headers] }

/-- The headers of every request before any layer is put on. -/
def baseHeaders (e : Endpoint) : Headers :=
  [("Content-Type", "application/json"), ("Authorization", e.credentials.authorization)]

/-- The request for an operation. -/
def request (e : Endpoint) (operation : Operation) (object : Option Snapshot) (reference : String)
    (query : Query) : Request :=
  { method := operation.method
    url := e.host.url operation ((object.map Snapshot.objectType).getD "") reference
      ((object.map Snapshot.returnFields).getD []) query
    headers := e.layers.foldl Headers.setAll e.baseHeaders
    body := (requestBody operation object reference query).map bodyOctets }

/-- The endpoint for diagnosis. -/
def describe (e : Endpoint) : String :=
  record "WapiRequestBuilder" [("host", e.host.describe), ("auth", e.credentials.describe)]

end Endpoint
end GridClient
