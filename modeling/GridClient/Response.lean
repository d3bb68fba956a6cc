import GridClient.Error
import GridClient.Json.Reader
import GridClient.Json.Record

/-!
# `GridClient.Response` — answers of the server

## Contents
- `Response`: a status and a body.
- `ErrorBody`: what the server tells about a failure.
- `Response.check`: the body of an answer that reports success, and the failure of any other.
-/

namespace GridClient

open Text

/-- An answer: its status and its body. -/
structure Response where
  status : Nat
  body : Octets
  deriving DecidableEq

/-- What the server tells about a failure. -/
structure ErrorBody where
  code : String := ""
  text : String := ""
  deriving DecidableEq

namespace ErrorBody

def layout : Layout := ⟨["code", "text"], 0⟩

def ofDocument? (d : Document) : Option ErrorBody := do
  let members ← layout.members? d
  let code ← members.orElse? "code" Document.toText? ""
  let text ← members.orElse? "text" Document.toText? ""
  some { code, text }

/-- What a body tells; nothing when it has another shape. -/
def ofOctets (body : Octets) : ErrorBody := ((Document.read body) >>= ofDocument?).getD {}

/-- Whether the code is one for absent data. -/
def isAbsence (b : ErrorBody) : Bool := "Data.NotFound".toList.isSuffixOf b.code.toList

end ErrorBody

namespace Response

/-- Whether the status reports success. -/
def isSuccess (r : Response) : Bool := 200 ≤ r.status && r.status < 300

/-- The body as text, ill-formed stretches replaced. -/
def text (r : Response) : String := Utf8.decodeLossy r.body

/-- What the server tells, or else the whole body. -/
def message (r : Response) : String :=
  let told := (ErrorBody.ofOctets r.body).text
  if told = "" then r.text else told

/-- The body of a success; else absence of `target`, by status or by code, or another failure. -/
def check (r : Response) (target : String) : Checked Octets :=
  if r.isSuccess then .ok r.body
  else if r.status = 404 ∨ (ErrorBody.ofOctets r.body).isAbsence then
    .error (.notFound target r.message)
  else .error (.http r.status r.message)

end Response
end GridClient
