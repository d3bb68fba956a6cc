import GridClient.Decimal.Numeral
import GridClient.Error
import GridClient.Text.Blank
import GridClient.Text.Quoted

/-!
# `GridClient.Settings.Basic` — where the grid is and how to reach it

## Contents
- `Host`, `Credentials`, `TlsMode`, `TransportSettings`, `Settings`, with their defaults.
- `check` for each: the first thing that keeps it from being used.
- `describe` for each: the text for diagnosis, which holds no password.
-/

namespace GridClient

/-- Refuses settings. -/
def misconfigured {α : Type} (cause : Misconfiguration) : Checked α :=
  .error (.configuration cause)

/-! ## Host -/

/-- Where the grid master lives, and the interface version that it speaks. -/
structure Host where
  host : String
  version : String := "2.12.3"
  port : String := "443"
  deriving DecidableEq

namespace Host

/-- The greatest port number. -/
def greatestPort : Nat := 65535

def check (h : Host) : Checked Unit :=
  if h.host = "" then misconfigured .hostEmpty
  else if h.version = "" then misconfigured .versionEmpty
  else if (Decimal.read? greatestPort h.port.toList).isNone then
    misconfigured (.portInvalid h.port)
  else .ok ()

/-- The address that all requests begin with. -/
def baseUrl (h : Host) : String :=
  "https://" ++ h.host ++ ":" ++ h.port ++ "/wapi/v" ++ h.version ++ "/"

def describe (h : Host) : String :=
  Text.record "HostConfig"
    [("host", Text.quote h.host), ("version", Text.quote h.version), ("port", Text.quote h.port)]

end Host

/-! ## Credentials -/

/-- A user name and a password. -/
structure Credentials where
  username : String
  password : String := ""
  deriving DecidableEq

namespace Credentials

def check (c : Credentials) : Checked Unit :=
  if c.username = "" then misconfigured .usernameEmpty else .ok ()

/-- What is shown in place of a secret. -/
def redacted : String := "<REDACTED>"

def describe (c : Credentials) : String :=
  Text.record "AuthConfig"
    [("username", Text.quote c.username), ("password", Text.quote redacted)]

end Credentials

/-! ## Transport -/

/-- How the server's certificate is verified. -/
inductive TlsMode
  /-- Against the system's trust store. -/
  | verify
  /-- Not at all. -/
  | insecure
  /-- Against the certificates in a file. -/
  | bundle (path : String)
  deriving DecidableEq

namespace TlsMode

/-- The mode that a word stands for, in any case and between any white space: a yes or nothing, a
no, or else the path of a file. -/
def parse (s : String) : TlsMode :=
  let trimmed := Text.trim s
  let folded := String.ofList (trimmed.toList.map Char.toLower)
  if ["", "true", "yes", "1"].contains folded then verify
  else if ["false", "no", "0"].contains folded then insecure
  else bundle trimmed

/-- The mode in words. A path is quoted as any text is, so that an apostrophe in it stands for
itself. -/
def describe : TlsMode → String
  | verify => "Verify"
  | insecure => "Insecure"
  | bundle path => "CaBundle(" ++ Text.quote path ++ ")"

end TlsMode

/-- How requests are sent. -/
structure TransportSettings where
  tls : TlsMode := .verify
  timeoutSeconds : UInt64 := 60
  /-- How many requests may be under way at once. -/
  poolSize : UInt64 := 10
  deriving DecidableEq

namespace TransportSettings

def check (t : TransportSettings) : Checked Unit :=
  if t.timeoutSeconds = 0 then misconfigured .timeoutZero
  else if t.poolSize = 0 then misconfigured .poolZero
  else if t.tls = .bundle "" then misconfigured .bundlePathEmpty
  else .ok ()

def describe (t : TransportSettings) : String :=
  Text.record "TransportConfig"
    [("tls", t.tls.describe), ("timeout_secs", Decimal.text t.timeoutSeconds.toNat),
      ("pool_connections", Decimal.text t.poolSize.toNat)]

end TransportSettings

/-! ## All settings -/

/-- Everything needed to reach a grid. -/
structure Settings where
  host : Host
  credentials : Credentials
  transport : TransportSettings := {}
  deriving DecidableEq

namespace Settings

/-- Settings for a host and an account, with the defaults for everything else. -/
def basic (host username password : String) : Settings :=
  { host := { host }, credentials := { username, password } }

/-- Settings that name neither host nor account. -/
def blank : Settings := basic "" "" ""

def check (s : Settings) : Checked Unit := do
  s.host.check
  s.credentials.check
  s.transport.check

def describe (s : Settings) : String :=
  Text.record "ConnectorConfig"
    [("host", s.host.describe), ("auth", s.credentials.describe),
      ("transport", s.transport.describe)]

end Settings
end GridClient
