import PresentationVerifier.Json.Basic

/-!
# Typed reading of JSON values

A record can be written as an object, with its fields in any order among other members, or as an
array of its fields in their fixed order. `Fields` is the view of a value that is common to both
forms.
-/

namespace PresentationVerifier.Json

/-- A boolean value. -/
def asBool? : Json → Option Bool
  | .bool b => some b
  | _ => none

/-- An integer of 64 bits with a sign. -/
def asInt64? : Json → Option Int64
  | .number n =>
    n.toInt?.bind fun i =>
      if -0x8000000000000000 ≤ i ∧ i < 0x8000000000000000 then some (Int64.ofInt i) else none
  | _ => none

/-- A natural number of 64 bits, written without a sign. -/
def asCount? : Json → Option Nat
  | .number n =>
    n.toInt?.bind fun i => if n.negative = false ∧ i < 0x10000000000000000 then some i.toNat else none
  | _ => none

/-- A value that may be `null`, in place of which there is nothing. -/
def nullable {α : Type} (read : Json → Option α) : Json → Option (Option α)
  | .null => some none
  | v => (read v).map some

/-- A value that is not `null` is read as usual. -/
theorem nullable_of_ne_null {α : Type} {read : Json → Option α} {v : Json} (h : v ≠ .null) :
    nullable read v = (read v).map some := by
  cases v with
  | null => exact absurd rfl h
  | bool b | number n | string s | array items | object o => rfl

/-- An array all of whose values can be read. -/
def asArrayOf? {α : Type} (read : Json → Option α) : Json → Option (List α)
  | .array items => items.mapM read
  | _ => none

/-- The name of a choice without content: a string, or an object with `null` as its only member. -/
def asChoice? : Json → Option String
  | .string s => some s
  | .object [(name, .null)] => some name
  | _ => none

/-- The values of a record's fields, by the name of the field. -/
abbrev Fields := String → Option Json

/-- The fields of a record with the given field names. An array may be shorter than the names, and
then its last fields are missing; it may not be longer. -/
def fields? (names : List String) : Json → Option Fields
  | .object members => some fun name => Object.get? members name
  | .array items =>
    if items.length ≤ names.length then some fun name => (names.zip items).lookup name else none
  | _ => none

/-- A field that has a default. -/
def Fields.getOr {α : Type} (fields : Fields) (name : String) (read : Json → Option α)
    (default : α) : Option α :=
  match fields name with
  | none => some default
  | some v => read v

end PresentationVerifier.Json
