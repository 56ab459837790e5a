import Widgetry.Text.Blank
import Widgetry.Json.Printer

/-!
# Coercions of values

Expressions treat a JSON value as a truth value, a number or a text where one is needed. `null` is
false, zero and the empty text; containers are true, no number, and their JSON text.
-/

namespace Widgetry

/-- The integers below this bound, up or down, are the values of floats that are written as
integers. -/
def exactBound : Nat := 1 <<< 53

/-- A result of arithmetic as a value: an integer where it is one below `exactBound`, `null` where
it is not finite, and a float otherwise. -/
def Json.ofNumber (x : Binary64) : Json :=
  match x.toInt? with
  | some n => if n.natAbs < exactBound then .int n else .float x
  | none => .float x

/-- The numbers of a radix that its digits write, without a sign. -/
def readRadix? (radix : Nat) (digits : List Char) : Option Nat :=
  if digits = [] then none
  else digits.foldlM (fun n c => (digitBelow? radix c).map (radix * n + ·)) 0
where
  /-- The value of a digit below the radix; letters follow on nine. -/
  digitBelow? (radix : Nat) (c : Char) : Option Nat :=
    let value :=
      if c.isDigit then c.toNat - '0'.toNat
      else if c.isLower then c.toNat - 'a'.toNat + 10
      else if c.isUpper then c.toNat - 'A'.toNat + 10
      else radix
    if value < radix then some value else none

/-- Reads a natural number of 64 bits in a radix. A plus sign may stand before it. -/
def readWord? (radix : Nat) (text : List Char) : Option Nat :=
  let digits := match text with
    | '+' :: rest => rest
    | _ => text
  (readRadix? radix digits).filter (· < 1 <<< 64)

/-- The radix that the beginning of a number announces, and the rest of it. -/
def radix? : List Char → Option (Nat × List Char)
  | '0' :: c :: rest =>
    if c = 'x' ∨ c = 'X' then some (16, rest)
    else if c = 'o' ∨ c = 'O' then some (8, rest)
    else if c = 'b' ∨ c = 'B' then some (2, rest)
    else none
  | _ => none

/-- Whether a character can stand in a decimal number. -/
def isDecimalChar (c : Char) : Bool :=
  c.isDigit || c = '+' || c = '-' || c = '.' || c = 'e' || c = 'E'

/-- The number that a text writes, with blanks around it. A text of blanks is zero. -/
def readNumber? (text : String) : Option Binary64 :=
  let s := Text.trim text.toList
  if s = [] then some (.finite (.zero false))
  else if s = "Infinity".toList ∨ s = "+Infinity".toList then some (.infinite false)
  else if s = "-Infinity".toList then some (.infinite true)
  else match radix? s with
  | some (radix, digits) => (readWord? radix digits).map fun n => .ofInt n
  | none => if s.all isDecimalChar then Decimal.readBinary64? s else none

/-- Whether a text writes a number. -/
def isNumeric (text : String) : Bool :=
  (readNumber? text).isSome

/-- The greatest and the least integer that a number is shown as. -/
def shownInt (n : Int) : Int :=
  max (-0x8000000000000000) (min n 0x7fffffffffffffff)

/-- The text of an integer. -/
def intText (n : Int) : List Char :=
  if n < 0 then '-' :: Nat.toDigits 10 n.natAbs else Nat.toDigits 10 n.natAbs

/-- The text that a number is shown as: an integer up to `10 ^ 21`, within 64 bits, and otherwise
its JSON text. -/
def Json.Number.show (n : Json.Number) : List Char :=
  match n.toBinary64.toInt? with
  | some i => if i.natAbs < Nat.pow 10 21 then intText (shownInt i) else n.write
  | none => n.write

namespace Json

/-- Whether a value counts as true. -/
def truthy : Json → Bool
  | .null => false
  | .bool b => b
  | .num n => !n.toBinary64.isZero
  | .str s => s ≠ ""
  | .arr _ => true
  | .obj _ => true

/-- The number that a value counts as; what is no number counts as none. -/
def toNumber? : Json → Option Binary64
  | .null => some (.finite (.zero false))
  | .bool b => some (.ofInt (if b then 1 else 0))
  | .num n => some n.toBinary64
  | .str s => readNumber? s
  | .arr _ => none
  | .obj _ => none

/-- The text that a value is shown as. -/
def display : Json → String
  | .null => ""
  | .str s => s
  | .bool true => "true"
  | .bool false => "false"
  | .num n => String.ofList n.show
  | v => v.write

/-- Equality of values of one kind. Numbers are equal when their values are, of either sort. -/
def strictEq : Json → Json → Bool
  | .num a, .num b => a.toBinary64.same b.toBinary64
  | a, b => a.same b

/-- Whether a value is a number, a string or a truth value. -/
def isScalar : Json → Bool
  | .num _ => true
  | .str _ => true
  | .bool _ => true
  | _ => false

/-- Equality across kinds: `null` equals only itself, strings are compared as such, and of other
scalars the numbers that they count as. -/
def looseEq (a b : Json) : Bool :=
  match a, b with
  | .null, b => b.isNull
  | _, .null => false
  | .str x, .str y => x == y
  | a, b =>
    if a.isScalar && b.isScalar then
      match a.toNumber?, b.toNumber? with
      | some x, some y => x.same y
      | _, _ => false
    else a.strictEq b

/-- The order of two values: of two strings by their characters, and else of the numbers that they
count as. -/
def compare? (a b : Json) : Option Ordering :=
  match a, b with
  | .str x, .str y => some (if x < y then .lt else if x = y then .eq else .gt)
  | a, b =>
    match a.toNumber?, b.toNumber? with
    | some x, some y => x.compare? y
    | _, _ => none

end Json

example : readNumber? " 0x1F " = some (.ofInt 31) := by decide +kernel
example : readNumber? "1e" = none := by decide +kernel
example : (Json.float (.ofInt 100000000000000000000)).display = "9223372036854775807" := by
  decide +kernel

end Widgetry
