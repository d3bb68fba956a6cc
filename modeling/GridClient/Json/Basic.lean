import GridClient.Decimal.Binary64

/-!
# `GridClient.Json.Basic` — JSON values

## Contents
- `Number`: an integer of 64 bits, with or without sign, or else a binary64 number.
- `Json`: the values; an object keeps its members in the order in which they were put in.
- `Fields`: the members of an object, one per key, with `get?` and `set`.
-/

namespace GridClient

/-! ## Numbers -/

/-- A JSON number: an integer that fits 64 bits with or without a sign, or a binary64 number. -/
inductive Number
  | integer (value : Int) (fits : -9223372036854775808 ≤ value ∧ value ≤ 18446744073709551615)
  | real (value : Decimal.Binary64)
  deriving DecidableEq

namespace Number

/-- The integer, if it fits. -/
def ofInt? (value : Int) : Option Number :=
  if fits : -9223372036854775808 ≤ value ∧ value ≤ 18446744073709551615 then some (integer value fits) else none

def ofUInt32 (n : UInt32) : Number :=
  integer n.toNat (by have := n.toNat_lt; omega)

def ofUInt64 (n : UInt64) : Number :=
  integer n.toNat (by have := n.toNat_lt; omega)

/-- The integer that fits 64 bits with a sign, if the number is one. -/
def toInt64? : Number → Option Int
  | integer value _ => if value ≤ 9223372036854775807 then some value else none
  | real _ => none

/-- The natural number up to `bound`, if the number is one. -/
def toNat? (bound : Nat) : Number → Option Nat
  | integer value _ => if 0 ≤ value ∧ value ≤ bound then some value.toNat else none
  | real _ => none

end Number

/-! ## Values -/

/-- A JSON value. -/
inductive Json
  | null
  | bool (value : Bool)
  | number (value : Number)
  | string (value : String)
  | array (items : List Json)
  | object (members : List (String × Json))

/-! ## Fields -/

/-- The members of an object in order. -/
abbrev Fields := List (String × Json)

namespace Fields

/-- The value under a key. -/
def get? (fields : Fields) (key : String) : Option Json := (fields.find? (·.1 == key)).map Prod.snd

/-- The fields with `key` bound to `value`: a key that is there keeps its place, a new one comes
last. -/
def set (fields : Fields) (key : String) (value : Json) : Fields :=
  match fields with
  | [] => [(key, value)]
  | (k, v) :: rest => if k = key then (k, value) :: rest else (k, v) :: set rest key value

/-- The fields with the given bindings made one after the other. -/
def setAll (fields : Fields) (bindings : List (String × Json)) : Fields :=
  bindings.foldl (fun fields b => set fields b.1 b.2) fields

theorem get?_cons (k : String) (v : Json) (fields : Fields) (key : String) :
    get? ((k, v) :: fields) key = if k = key then some v else get? fields key := by
  by_cases h : k = key <;> simp [get?, h]

theorem get?_set (fields : Fields) (key : String) (value : Json) (k : String) :
    get? (set fields key value) k = if key = k then some value else get? fields k := by
  induction fields with
  | nil => simp [set, get?_cons]
  | cons f fields ih =>
    obtain ⟨n, v⟩ := f
    unfold set
    split
    · rename_i h
      subst h
      by_cases h : n = k <;> simp [get?_cons, h]
    · rename_i h
      by_cases hn : n = k
      · subst hn
        simp [get?_cons, Ne.symm h]
      · simp [get?_cons, hn, ih]

end Fields
end GridClient
