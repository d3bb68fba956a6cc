import GridClient.Query
import GridClient.Request.Basic
import GridClient.Settings.Basic
import GridClient.Text.Cut
import GridClient.Text.Percent

/-!
# `GridClient.Request.Url` — addresses of requests

## Contents
- `Query.pairs`: the names and values that a read puts into its address, in order.
- `queryString`: pairs in percent encoding, and `readQueryString?`, which takes it apart again.
- `Host.url`: the address of a request.
-/

namespace GridClient

open Text

/-! ## Pairs -/

/-- The fields that a read returns: the query's choice, or else the object's. -/
def Query.effectiveFields (query : Query) (returnFields : List String) : List String :=
  if query.returnFields.isEmpty then returnFields else query.returnFields

/-- The names and values of a read: the proxy flag, the fields to return, the filters by key. -/
def Query.pairs (query : Query) (returnFields : List String) : List (String × String) :=
  let fields := query.effectiveFields returnFields
  (if query.forceProxy then [("_proxy_search", "GM")] else [])
    ++ (if fields.isEmpty then [] else [("_return_fields", String.intercalate "," fields)])
    ++ query.filters.entries

/-! ## Query strings -/

/-- A pair in percent encoding. -/
def encodePair (pair : String × String) : List Char :=
  Percent.encode pair.1 ++ '=' :: Percent.encode pair.2

/-- Pairs in percent encoding. -/
def queryString (pairs : List (String × String)) : List Char :=
  join ['&'] (pairs.map encodePair)

/-- A pair read back: the two sides of the first equals sign. -/
def readPair? (cs : List Char) : Option (String × String) := do
  let (key, value) ← cutFirst '=' cs
  let key ← Percent.decode? key
  let value ← Percent.decode? value
  some (key, value)

/-- The pairs of a query string, one between each two ampersands. -/
def readQueryString? (cs : List Char) : Option (List (String × String)) :=
  (pieces '&' cs).mapM readPair?

/-! ## Addresses -/

/-- What follows the path: nothing without pairs. -/
def querySuffix (pairs : List (String × String)) : String :=
  if pairs.isEmpty then "" else String.ofList ('?' :: queryString pairs)

/-- The address of a request: the reference where there is one, else the type, and for a read the
query string. -/
def Host.url (h : Host) (operation : Operation) (objectType reference : String)
    (returnFields : List String) (query : Query) : String :=
  let target := if reference = "" then objectType else reference
  let suffix := if operation = .get then querySuffix (query.pairs returnFields) else ""
  h.baseUrl ++ target ++ suffix

end GridClient
