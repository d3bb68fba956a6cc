import GridClient.Json.Document

/-!
# `GridClient.Json.Record` — reading documents by expected shape

A record is read from an object, whose unknown keys are ignored, or from an array that lists the
members in declared order. Only the parts that are asked for have to make sense.

## Contents
- Readers of single values: `toText?`, `toBool?`, `toNat?`, `orNull?`, `listOf?`.
- `Layout`: the declared members of a record, and `Layout.members?`, the look-up that a document
  gives for them.
-/

namespace GridClient
namespace Document

/-! ## Single values -/

/-- The text of a string. -/
def toText? : Document → Option String
  | string text? => text?
  | _ => none

def toBool? : Document → Option Bool
  | bool value => some value
  | _ => none

/-- The number denoted. -/
def toNumber? : Document → Option Number
  | number text => text.value?
  | _ => none

/-- An integer from zero up to `bound`. -/
def toNat? (bound : Nat) (d : Document) : Option Nat := d.toNumber? >>= Number.toNat? bound

/-- A number of 32 bits. -/
def toUInt32? (d : Document) : Option UInt32 := (d.toNat? (UInt32.size - 1)).map UInt32.ofNat

/-- A number of 64 bits. -/
def toUInt64? (d : Document) : Option UInt64 := (d.toNat? (UInt64.size - 1)).map UInt64.ofNat

/-- `null`, which stands for no value, or a value. -/
def orNull? {α : Type} (read : Document → Option α) : Document → Option (Option α)
  | null => some none
  | d => (read d).map some

/-- An array of values. -/
def listOf? {α : Type} (read : Document → Option α) : Document → Option (List α)
  | array items => items.mapM read
  | _ => none

end Document

/-! ## Records -/

/-- The declared members of a record in order. In an array the first `required` of them have to
be there. -/
structure Layout where
  names : List String
  required : Nat

/-- The members that a document gives, by name. -/
abbrev Members := String → Option Document

namespace Layout

/-- The last member with a name. -/
def lookup (members : List (Option String × Document)) (name : String) : Option Document :=
  (members.reverse.find? (·.1 == some name)).map Prod.snd

/-- Whether every key is a text and no declared name occurs twice. -/
def wellFormed (layout : Layout) (members : List (Option String × Document)) : Bool :=
  members.all (·.1.isSome)
    && layout.names.all fun name => (members.filter (·.1 == some name)).length ≤ 1

/-- The look-up that a document gives for the declared members. -/
def members? (layout : Layout) : Document → Option Members
  | .object members =>
    if layout.wellFormed members then some (lookup members) else none
  | .array items =>
    if layout.required ≤ items.length ∧ items.length ≤ layout.names.length then
      some fun name => (layout.names.zip items).lookup name
    else none
  | _ => none

end Layout

namespace Members

/-- A member that has to be there. -/
def required? {α : Type} (members : Members) (name : String) (read : Document → Option α) :
    Option α := members name >>= read

/-- A member that may be missing, but not `null`. -/
def orElse? {α : Type} (members : Members) (name : String) (read : Document → Option α)
    (otherwise : α) : Option α :=
  match members name with
  | none => some otherwise
  | some d => read d

/-- A member that may be missing or `null`. -/
def optional? {α : Type} (members : Members) (name : String) (read : Document → Option α) :
    Option (Option α) :=
  members.orElse? name (Document.orNull? read) none

end Members
end GridClient
