import Widgetry.Json.Basic

/-!
# Records as JSON

A record is written as an object and read from an object, whose unknown fields are ignored, or from
an array that gives the first of its fields in their order. A field is required, optional (then
`null` is the same as its absence), or has a default for its absence. A case without data is
written as its name.
-/

namespace Widgetry.Json

/-- The fields that a value gives to a record with fields of the given names. -/
def record? (names : List String) : Json → Option Fields
  | .obj fields => some fields
  | .arr items => if items.length ≤ names.length then some (names.zip items) else none
  | _ => none

/-- The name of a case without data. It may be the name of a field that is `null`. -/
def case? : Json → Option String
  | .str name => some name
  | .obj [(name, .null)] => some name
  | _ => none

/-- A natural number below `2 ^ 32`. -/
def word32? (v : Json) : Option Nat :=
  v.nat?.filter (· < 1 <<< 32)

/-- The finite number of a value, whichever way it is written. -/
def finite? : Json → Option Finite64
  | .num n => n.toBinary64.finite?
  | _ => none

variable {α : Type}

/-- Reads a field that has to be there. -/
def required? (fields : Fields) (name : String) (read : Json → Option α) : Option α :=
  (fields.get? name).bind read

/-- Reads a field that may be absent or `null`. -/
def optional? (fields : Fields) (name : String) (read : Json → Option α) : Option (Option α) :=
  match fields.get? name with
  | none => some none
  | some .null => some none
  | some v => (read v).map some

/-- Reads a field that has a default for its absence. -/
def defaulted? (fields : Fields) (name : String) (default : α) (read : Json → Option α) :
    Option α :=
  match fields.get? name with
  | none => some default
  | some v => read v

/-- Reads every item of an array. -/
def listOf? (read : Json → Option α) (v : Json) : Option (List α) :=
  v.items?.bind fun items => items.mapM read

/-- An object of the fields that are there. -/
def ofFields (fields : List (String × Option Json)) : Json :=
  .obj (Table.ofList (fields.filterMap fun field => field.2.map (field.1, ·)))

end Widgetry.Json
