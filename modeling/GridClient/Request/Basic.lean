import GridClient.Text.AsciiCase
import GridClient.Text.Quoted
import GridClient.Text.Utf8

/-!
# `GridClient.Request.Basic` — requests as they are sent

## Contents
- `Operation`, `Method`: what a request is for, and its method.
- `Headers`: look-up and replacement without regard to the case of names.
- `Request`: a complete request; `Request.describe` shows it without credentials.
-/

namespace GridClient

open Text

/-! ## Operations -/

/-- What a request is for. -/
inductive Operation
  | create
  | get
  | update
  | delete
  deriving DecidableEq, Repr

inductive Method
  | get
  | post
  | put
  | delete
  deriving DecidableEq, Repr

/-- Each operation has a method of its own. -/
def Operation.method : Operation → Method
  | create => .post
  | get => .get
  | update => .put
  | delete => .delete

namespace Method

def text : Method → String
  | get => "GET"
  | post => "POST"
  | put => "PUT"
  | delete => "DELETE"

def describe : Method → String
  | get => "Get"
  | post => "Post"
  | put => "Put"
  | delete => "Delete"

end Method

/-! ## Headers -/

/-- Headers in order, by name and value. -/
abbrev Headers := List (String × String)

namespace Headers

/-- The value of the first header with a name. -/
def get? (headers : Headers) (name : String) : Option String :=
  (headers.find? fun h => sameIgnoringCase h.1 name).map Prod.snd

/-- The headers with `name` set: any header of that name goes, and the new one comes last. -/
def set (headers : Headers) (name value : String) : Headers :=
  headers.filter (fun h => !sameIgnoringCase h.1 name) ++ [(name, value)]

/-- The headers with all of `added` set in order. -/
def setAll (headers added : Headers) : Headers :=
  added.foldl (fun headers h => headers.set h.1 h.2) headers

/-- The headers with the values of credentials hidden. -/
def redact (headers : Headers) : Headers :=
  headers.map fun h => if sameIgnoringCase h.1 "authorization" then (h.1, "<REDACTED>") else h

end Headers

/-! ## Requests -/

/-- A complete request. -/
structure Request where
  method : Method
  url : String
  headers : Headers
  body : Option Octets
  deriving DecidableEq

namespace Request

/-- The request with a header set. -/
def setHeader (r : Request) (name value : String) : Request :=
  { r with headers := r.headers.set name value }

/-- The body as text; nothing when there is none or it is not well-formed. -/
def bodyText (r : Request) : String := (r.body >>= Utf8.decode?).getD ""

/-- The request for diagnosis, with credentials hidden. -/
def describe (r : Request) : String :=
  record "HttpRequest"
    [("method", r.method.describe), ("url", quote r.url),
      ("headers",
        showList (r.headers.redact.map fun h => "(" ++ quote h.1 ++ ", " ++ quote h.2 ++ ")")),
      ("body", quote r.bodyText)]

end Request
end GridClient
