/-!
# `GridClient.Error` — what can go wrong

Every failure is a cause with the data that it carries; its wording is a function of the cause.

## Contents
- `Fault`: input that fails a local check.
- `Misconfiguration`: settings that cannot be used.
- `Error`: all failures, with `isValidation`, `isTransport`, `isNotFound` and `message`.
-/

namespace GridClient

/-! ## Local checks -/

/-- Why an argument is refused before any request is sent, or an answer's reference afterwards. -/
inductive Fault
  /-- A field holds nothing but white space. -/
  | required (field : String)
  /-- A text is no network of the expected family. -/
  | cidrMismatch (cidr : String)
  /-- A network's address has bits beyond its length. -/
  | hostBits (cidr network : String) (length : Nat)
  /-- A text is no address of the family. -/
  | addressMismatch (family address : String)
  | macMismatch (mac : String)
  | lengthOutOfRange (length greatest : Nat)
  /-- An address lies outside the network that it is reserved in. -/
  | addressOutside (address cidr : String)
  /-- A reservation is looked up by neither address nor MAC. -/
  | reservationUnspecified
  | reservedForOther (address owner mac : String)
  | definitionWithoutType (name : String)
  /-- A look-up lacks some of the fields that it needs. -/
  | lookupIncomplete (what : String) (fields missing : List String)
  | wrongType (reference objectType : String)
  | referenceToRead (objectType : String)
  | referenceToUpdate (objectType : String)
  | referenceToDelete
  /-- A reference's display path has no two parts. -/
  | nothingAllocated (reference : String)
  | emptyAllocated (reference : String)
  /-- A cause that is told in words. -/
  | told (text : String)
  deriving DecidableEq, Repr

def Fault.message : Fault → String
  | required field => s!"{field} is required"
  | cidrMismatch cidr => s!"CIDR format not matched: {cidr}"
  | hostBits cidr network length =>
    s!"CIDR format not matched: {cidr} has host bits set (network is {network}/{length})"
  | addressMismatch family address => s!"{family} address format not matched: {address}"
  | macMismatch mac => s!"MAC address format not matched: {mac}"
  | lengthOutOfRange length greatest =>
    s!"prefix length {length} is out of range 1..={greatest}"
  | addressOutside address cidr => s!"{address} is outside {cidr}"
  | reservationUnspecified =>
    "an IP address or a MAC address is required to look up a fixed address"
  | reservedForOther address owner mac => s!"{address} is reserved for {owner}, not {mac}"
  | definitionWithoutType name => s!"EA definition {name} needs a type"
  | lookupIncomplete what fields missing =>
    let all := String.intercalate " + " fields
    let absent := String.intercalate ", " missing
    s!"looking up {what} requires {all} (missing: {absent})"
  | wrongType reference objectType => s!"{reference} is not a {objectType} reference"
  | referenceToRead objectType => s!"reference is required to read a single {objectType}"
  | referenceToUpdate objectType => s!"reference is required to update {objectType}"
  | referenceToDelete => "reference is required to delete an object"
  | nothingAllocated reference => s!"reference {reference} does not embed an allocated value"
  | emptyAllocated reference => s!"reference {reference} carries an empty allocated value"
  | told text => text

/-! ## Settings -/

/-- Why settings cannot be used. -/
inductive Misconfiguration
  | hostEmpty
  | versionEmpty
  | portInvalid (port : String)
  | usernameEmpty
  | timeoutZero
  | poolZero
  | bundlePathEmpty
  | bundleUnreadable (path reason : String)
  | variableRequired (name : String)
  | variableNotNumber (name value : String)
  /-- A cause that is told in words. -/
  | told (text : String)
  deriving DecidableEq, Repr

def Misconfiguration.message : Misconfiguration → String
  | hostEmpty => "Host cannot be empty"
  | versionEmpty => "WAPI version cannot be empty"
  | portInvalid port => s!"Port must be a number between 0 and 65535: {port}"
  | usernameEmpty => "Username cannot be empty"
  | timeoutZero => "HTTP timeout must be > 0"
  | poolZero => "HTTP pool size must be > 0"
  | bundlePathEmpty => "CA bundle path cannot be empty"
  | bundleUnreadable path reason => s!"Failed to read CA bundle {path}: {reason}"
  | variableRequired name => s!"{name} is required"
  | variableNotNumber name value => s!"{name} is not a number: {value}"
  | told text => text

/-! ## All failures -/

/-- A failure. -/
inductive Error
  /-- Input that fails a local check. -/
  | validation (fault : Fault)
  | configuration (cause : Misconfiguration)
  /-- A text that is no reference. -/
  | invalidReference (reference : String)
  /-- No connection, or none that could be used. -/
  | transport (text : String)
  /-- No answer in time; whether a write took place is not known. -/
  | timeout (text : String)
  /-- An answer that reports a failure other than absence. -/
  | http (status : Nat) (text : String)
  /-- An answer that reports absence of the target. -/
  | notFound (target text : String)
  /-- An answer whose body has an unexpected shape. -/
  | decode (context : String)
  /-- A text that is not the JSON expected. -/
  | json
  | sessionClosed
  | unknownObjectType (name : String)
  /-- More objects than one where one is expected. -/
  | ambiguous (what : String) (count : Nat)
  /-- An object whose JSON form is no JSON object. -/
  | notAnObject (objectType value : String)
  /-- A cause that is told in words. -/
  | told (text : String)
  deriving DecidableEq, Repr

namespace Error

def message : Error → String
  | validation fault => s!"Validation error: {fault.message}"
  | configuration cause => s!"Configuration error: {cause.message}"
  | invalidReference reference => s!"Invalid reference: {reference}"
  | transport text => s!"Transport error: {text}"
  | timeout text => s!"Request timed out: {text}"
  | http status text => s!"WAPI request error: {status} ({text})"
  | notFound target text => s!"Not found: {target} ({text})"
  | decode context => s!"Failed to decode {context}"
  | json => "JSON error"
  | sessionClosed => "Connector session is closed"
  | unknownObjectType name => s!"Unknown object type: {name}"
  | ambiguous what count => s!"{what} matched {count} objects, expected one"
  | notAnObject objectType value =>
    s!"{objectType} serialized to {value} instead of a JSON object"
  | told text => text

/-- Whether the target is reported absent. -/
def isNotFound : Error → Bool
  | notFound .. => true
  | _ => false

/-- Whether no answer was received. -/
def isTransport : Error → Bool
  | transport _ | timeout _ => true
  | _ => false

/-- Whether the failure was found locally. -/
def isValidation : Error → Bool
  | validation _ | configuration _ | invalidReference _ => true
  | _ => false

end Error

/-- The outcome of a local check. -/
abbrev Checked (α : Type) := Except Error α

/-- Refuses with a fault. -/
def refuse {α : Type} (fault : Fault) : Checked α := .error (.validation fault)

end GridClient
