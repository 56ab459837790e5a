import Widgetry.Table
import Widgetry.Json.Number

/-!
# JSON values

Properties, meta-state and everything that a widget is saved as are JSON values. The fields of an
object are a sorted dictionary (`Table`), so an object is walked and written in the order of its
keys. `same` is equality of values as the rules of this library use it.
-/

namespace Widgetry

/-- A JSON value. The fields of an object stand in increasing order of their names. -/
inductive Json where
  | null
  | bool (b : Bool)
  | num (n : Json.Number)
  | str (s : String)
  | arr (items : List Json)
  | obj (fields : List (String × Json))
deriving Inhabited

/-- The fields of an object. -/
abbrev Fields := Table String Json

namespace Json

/-- An integer as a value; one beyond all numbers is `null`. -/
def int (n : Int) : Json :=
  (Number.ofInt? n).elim .null .num

/-- A binary number as a value; a number that is not finite is `null`. -/
def float (x : Binary64) : Json :=
  (Number.ofBinary64? x).elim .null .num

instance : Coe String Json := ⟨.str⟩
instance : Coe Bool Json := ⟨.bool⟩

/-- A value, or `null` in its absence. -/
def ofOption (v : Option Json) : Json :=
  v.getD .null

/-- The field of an object. -/
def get? : Json → String → Option Json
  | .obj fields, name => Table.get? fields name
  | _, _ => none

def string? : Json → Option String
  | .str s => some s
  | _ => none

def bool? : Json → Option Bool
  | .bool b => some b
  | _ => none

def number? : Json → Option Binary64
  | .num n => some n.toBinary64
  | _ => none

def nat? : Json → Option Nat
  | .num n => n.toNat?
  | _ => none

def items? : Json → Option (List Json)
  | .arr items => some items
  | _ => none

def fields? : Json → Option Fields
  | .obj fields => some fields
  | _ => none

theorem bind_string?_eq_some_iff (v : Option Json) (s : String) :
    v.bind string? = some s ↔ v = some (.str s) := by
  rcases v with _ | _ | _ | _ | _ | _ | _ <;> simp [string?]

theorem bind_items?_eq_some_iff (v : Option Json) (items : List Json) :
    v.bind items? = some items ↔ v = some (.arr items) := by
  rcases v with _ | _ | _ | _ | _ | _ | _ <;> simp [items?]

theorem bind_fields?_eq_some_iff (v : Option Json) (fields : Fields) :
    v.bind fields? = some fields ↔ v = some (.obj fields) := by
  rcases v with _ | _ | _ | _ | _ | _ | _ <;> simp [fields?]

def isNull : Json → Bool
  | .null => true
  | _ => false

def isString : Json → Bool
  | .str _ => true
  | _ => false

def isObject : Json → Bool
  | .obj _ => true
  | _ => false

mutual

/-- Equality of values. Numbers are compared as `Number.same` says, everything else part by
part. -/
def same : Json → Json → Bool
  | .null, .null => true
  | .bool a, .bool b => a == b
  | .num a, .num b => a.same b
  | .str a, .str b => a == b
  | .arr a, .arr b => sameItems a b
  | .obj a, .obj b => sameFields a b
  | _, _ => false

/-- Equality of lists of values. -/
def sameItems : List Json → List Json → Bool
  | [], [] => true
  | a :: as, b :: bs => same a b && sameItems as bs
  | _, _ => false

/-- Equality of the fields of two objects. -/
def sameFields : List (String × Json) → List (String × Json) → Bool
  | [], [] => true
  | (k, a) :: as, (l, b) :: bs => k == l && same a b && sameFields as bs
  | _, _ => false

end

/-- Whether a property has a value, and the same one. An absent value is the same as no value. -/
def sameOption (a : Option Json) (b : Json) : Bool :=
  a.any (same b)

end Json

end Widgetry
