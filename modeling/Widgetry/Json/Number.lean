import Widgetry.Number.Shortest

/-!
# The numbers of JSON values

A JSON number is an integer of 64 bits, signed or unsigned, or a finite binary number. The two
kinds are kept apart: `1` and `1.0` are different values, of which one is written without and one
with a fraction. `ofInt` and `ofBinary64?` are total, so no value outside the two kinds arises.
-/

namespace Widgetry.Json

/-- The integers that a JSON number holds as such. -/
def IsWord (n : Int) : Prop :=
  -0x8000000000000000 ≤ n ∧ n < 0x10000000000000000

instance (n : Int) : Decidable (IsWord n) := inferInstanceAs (Decidable (_ ∧ _))

/-- A JSON number. -/
inductive Number where
  | integer (n : Int) (isWord : IsWord n)
  | float (x : Finite64)
deriving DecidableEq

namespace Number

/-- The binary number nearest to the value. -/
def toBinary64 : Number → Binary64
  | .integer n _ => .ofInt n
  | .float x => .finite x

/-- A finite binary number as a JSON number; the others are none. -/
def ofBinary64? : Binary64 → Option Number
  | .finite x => some (.float x)
  | _ => none

/-- An integer as a JSON number: as such if it is in range, and else the nearest float. -/
def ofInt? (n : Int) : Option Number :=
  if h : IsWord n then some (.integer n h) else ofBinary64? (.ofInt n)

/-- The non-negative integer that the number is. A float is none, whatever its value. -/
def toNat? : Number → Option Nat
  | .integer n _ => if 0 ≤ n then some n.toNat else none
  | .float _ => none

/-- Equality of numbers: both integers or both floats, with the same value. The two zeros among
the floats are equal. -/
def same : Number → Number → Bool
  | .integer n _, .integer m _ => n == m
  | .float x, .float y => Binary64.same (.finite x) (.finite y)
  | _, _ => false

/-- The text of the number. -/
def write : Number → List Char
  | .integer n _ =>
    if n < 0 then '-' :: Nat.toDigits 10 n.natAbs else Nat.toDigits 10 n.natAbs
  | .float x => x.write

end Number

end Widgetry.Json
