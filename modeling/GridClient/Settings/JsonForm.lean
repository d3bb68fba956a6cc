import GridClient.Json.Record
import GridClient.Settings.Basic

/-!
# `GridClient.Settings.JsonForm` — settings as JSON

## Contents
- `toJson` and `ofDocument?` for each kind of settings. Members with a default may be missing.
-/

namespace GridClient

/-! ## Host and credentials -/

namespace Host

def layout : Layout := ⟨["host", "version", "port"], 1⟩

def toJson (h : Host) : Json :=
  .object [("host", .string h.host), ("version", .string h.version), ("port", .string h.port)]

def ofDocument? (d : Document) : Option Host := do
  let members ← layout.members? d
  let host ← members.required? "host" Document.toText?
  let defaults : Host := { host }
  let version ← members.orElse? "version" Document.toText? defaults.version
  let port ← members.orElse? "port" Document.toText? defaults.port
  some { host, version, port }

end Host

namespace Credentials

def layout : Layout := ⟨["username", "password"], 1⟩

def toJson (c : Credentials) : Json :=
  .object [("username", .string c.username), ("password", .string c.password)]

def ofDocument? (d : Document) : Option Credentials := do
  let members ← layout.members? d
  let username ← members.required? "username" Document.toText?
  let password ← members.orElse? "password" Document.toText? ""
  some { username, password }

end Credentials

/-! ## Verification mode -/

namespace TlsMode

def layout : Layout := ⟨["mode", "path"], 2⟩

/-- The kinds of mode. -/
inductive Kind
  | verify
  | insecure
  | bundle

/-- The kind with a name. -/
def Kind.ofName? : String → Option Kind
  | "verify" => some verify
  | "insecure" => some insecure
  | "ca_bundle" => some bundle
  | _ => none

/-- A kind is given by its name, or by an object with the name for its only key and no value. -/
def Kind.ofDocument? : Document → Option Kind
  | .string name => name >>= ofName?
  | .object [(name, .null)] => name >>= ofName?
  | _ => none

def toJson : TlsMode → Json
  | verify => .object [("mode", .string "verify")]
  | insecure => .object [("mode", .string "insecure")]
  | bundle path => .object [("mode", .string "ca_bundle"), ("path", .string path)]

/-- A mode without a file has no path, or `null` for one. -/
def ofDocument? (d : Document) : Option TlsMode := do
  let members ← layout.members? d
  let kind ← members.required? "mode" Kind.ofDocument?
  match kind, members "path" with
  | .verify, none | .verify, some .null => some verify
  | .insecure, none | .insecure, some .null => some insecure
  | .bundle, some path => path.toText?.map bundle
  | _, _ => none

end TlsMode

/-! ## Transport and all settings -/

namespace TransportSettings

def layout : Layout := ⟨["tls", "timeout_secs", "pool_connections"], 0⟩

def toJson (t : TransportSettings) : Json :=
  .object
    [("tls", t.tls.toJson), ("timeout_secs", .number (.ofUInt64 t.timeoutSeconds)),
      ("pool_connections", .number (.ofUInt64 t.poolSize))]

def ofDocument? (d : Document) : Option TransportSettings := do
  let members ← layout.members? d
  let defaults : TransportSettings := {}
  let tls ← members.orElse? "tls" TlsMode.ofDocument? defaults.tls
  let timeoutSeconds ←
    members.orElse? "timeout_secs" Document.toUInt64? defaults.timeoutSeconds
  let poolSize ← members.orElse? "pool_connections" Document.toUInt64? defaults.poolSize
  some { tls, timeoutSeconds, poolSize }

end TransportSettings

namespace Settings

def layout : Layout := ⟨["host", "auth", "transport"], 2⟩

def toJson (s : Settings) : Json :=
  .object
    [("host", s.host.toJson), ("auth", s.credentials.toJson), ("transport", s.transport.toJson)]

def ofDocument? (d : Document) : Option Settings := do
  let members ← layout.members? d
  let host ← members.required? "host" Host.ofDocument?
  let credentials ← members.required? "auth" Credentials.ofDocument?
  let transport ← members.orElse? "transport" TransportSettings.ofDocument? {}
  some { host, credentials, transport }

end Settings
end GridClient
