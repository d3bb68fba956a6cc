import GridClient.Settings.Basic

/-!
# `GridClient.Settings.Environment` — settings from environment variables

## Contents
- `Settings.ofEnvironment`: settings from the `WAPI_` variables, checked.
-/

namespace GridClient.Settings

/-- The values of environment variables by name. -/
abbrev Environment := String → Option String

/-- A variable that has to be set. -/
def requiredVariable (env : Environment) (name : String) : Checked String :=
  match env name with
  | some value => .ok value
  | none => misconfigured (.variableRequired name)

/-- A variable that, where it is set, has to be a number of 64 bits. -/
def numberVariable (env : Environment) (name : String) (otherwise : UInt64) : Checked UInt64 :=
  match env name with
  | none => .ok otherwise
  | some value =>
    match Decimal.read? (UInt64.size - 1) value.toList with
    | some n => .ok (UInt64.ofNat n)
    | none => misconfigured (.variableNotNumber name value)

/-- Checked settings from the environment. Host and user name have to be set. -/
def ofEnvironment (env : Environment) : Checked Settings := do
  let host ← requiredVariable env "WAPI_HOST"
  let username ← requiredVariable env "WAPI_USERNAME"
  let start := basic host username ((env "WAPI_PASSWORD").getD "")
  let timeoutSeconds ←
    numberVariable env "WAPI_HTTP_TIMEOUT" start.transport.timeoutSeconds
  let poolSize ←
    numberVariable env "WAPI_HTTP_POOL_CONNECTIONS" start.transport.poolSize
  let settings : Settings :=
    { host :=
        { host
          version := (env "WAPI_VERSION").getD start.host.version
          port := (env "WAPI_PORT").getD start.host.port }
      credentials := start.credentials
      transport :=
        { tls := ((env "WAPI_SSL_VERIFY").map TlsMode.parse).getD start.transport.tls
          timeoutSeconds, poolSize } }
  settings.check
  return settings

end GridClient.Settings
