import GridClient.Session.Login
import GridClient.Transport.Files

/-!
# `GridClient.Transport.Http` — sessions over the network

What the network answers is a parameter, and so is which requests cannot be sent at all: what may
stand in an address or in a header is for the network's own client to say.

## Contents
- `HttpTransport`: how requests are sent; `HttpTransport.ofSettings`: from settings, checked.
- `HttpTransport.through`: the transport that hands on what can be sent.
- `HttpTransport.connect`: a session from settings.
-/

namespace GridClient

/-- How requests are sent over a network. -/
structure HttpTransport where
  poolSize : UInt64
  timeoutSeconds : UInt64
  deriving DecidableEq

namespace HttpTransport

/-- The transport with the given settings; a file of certificates has to be readable. -/
def ofSettings (files : FileTree) (t : TransportSettings) : Checked HttpTransport := do
  t.check
  match t.tls with
  | .bundle path =>
    match files.problem? path with
    | some problem => misconfigured (.bundleUnreadable path problem.message)
    | none => return ⟨t.poolSize, t.timeoutSeconds⟩
  | _ => return ⟨t.poolSize, t.timeoutSeconds⟩

def name : String := "reqwest"

def describe (h : HttpTransport) : String :=
  Text.record "ReqwestRequestor"
    [("pool_connections", Decimal.text h.poolSize.toNat),
      ("timeout", Decimal.text h.timeoutSeconds.toNat ++ "s")]

/-- How many requests may be under way at once. -/
def greatestUnderWay (h : HttpTransport) : UInt64 := h.poolSize

/-- How many more requests may be sent while the given number is under way. -/
def free (h : HttpTransport) (underWay : UInt64) : UInt64 := h.poolSize - underWay

/-- The failure of a request that got no answer. -/
def failure : Error := .transport "HTTP request failed"

variable {σ : Type}

/-- The transport over a network: a request that cannot be sent fails at once. -/
def through (refused : Request → Bool) (network : Request → σ → Checked Response × σ) :
    Transport σ where
  name := name
  exchange := fun r server => if refused r then (.error failure, server) else network r server

/-- A session from settings, with extra headers on every request: the world in which it is active,
or why there is none. -/
def connect (files : FileTree) (refused : Request → Bool)
    (network : Request → σ → Checked Response × σ) (server : σ) (settings : Settings)
    (headers : Headers) : Checked (Link σ × World σ) := do
  settings.check
  let endpoint : Endpoint := { host := settings.host, credentials := settings.credentials }
  let endpoint := if headers.isEmpty then endpoint else endpoint.layered headers
  let _ ← HttpTransport.ofSettings files settings.transport
  let link : Link σ := ⟨endpoint, through refused network⟩
  match link.connect .userProfile server with
  | (.ok _, world) => return (link, world)
  | (.error e, _) => .error e

end HttpTransport
end GridClient
