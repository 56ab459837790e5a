import Widgetry.Json.Number

/-!
# Number literals

A literal of JSON text is a sign, digits with no needless zero in front, and perhaps a fraction and
an exponent. `Literal.ofText?` takes it apart and `Literal.toNumber?` gives its value.

The digits are gathered in a significand of 64 bits, and those for which it has no room count for
their place only. A float is the significand times or divided by a power of ten: both are rounded
to floats, and so is the result. A literal with many digits or a large exponent can therefore stand
for a neighbour of the nearest float.
-/

namespace Widgetry.Json

/-- The parts of a literal: its sign, the digits before and after the point, and the exponent if
there is one. There are no digits after the point only if there is no point. -/
structure Literal where
  negative : Bool
  whole : List Char
  fraction : List Char
  exponent : Option Int
deriving DecidableEq, Inhabited

namespace Literal

/-- The exponent at the end of a literal, where there may be none. -/
def readExponent? : List Char → Option (Option Int)
  | [] => some none
  | text => (Decimal.readExponent? text).map some

/-- The parts of the literal that a text is. -/
def ofText? (text : List Char) : Option Literal :=
  let (negative, body) := match text with
    | '-' :: rest => (true, rest)
    | _ => (false, text)
  let whole := body.takeWhile Char.isDigit
  let (fraction, rest) := match body.dropWhile Char.isDigit with
    | '.' :: more => (some (more.takeWhile Char.isDigit), more.dropWhile Char.isDigit)
    | rest => (none, rest)
  if whole ≠ [] ∧ (whole.head? ≠ some '0' ∨ whole.length = 1) ∧ fraction ≠ some [] then
    (readExponent? rest).map (⟨negative, whole, fraction.getD [], ·⟩)
  else none

/-- Appends digits to a number as long as it stays below `2 ^ 64`, and gives the digits that are
left over. -/
def appendDigits (n : Nat) : List Char → Nat × List Char
  | [] => (n, [])
  | c :: rest =>
    let longer := 10 * n + Decimal.digitValue c
    if longer < 1 <<< 64 then appendDigits longer rest else (n, c :: rest)

/-- The digits of the literal, as far as there is room for them, and the power of ten that goes
with them. Whole digits left over move the point to the right. -/
def scaled (l : Literal) : Nat × Int :=
  let (whole, leftWhole) := appendDigits 0 l.whole
  let (significand, leftFraction) := appendDigits whole l.fraction
  let places : Int := l.fraction.length - leftFraction.length
  (significand, l.exponent.getD 0 + leftWhole.length - places)

/-- The integer that the literal writes, if it is a sign and digits for all of which there is
room. A negative zero is no integer. -/
def integer? (l : Literal) : Option Int :=
  let (n, left) := appendDigits 0 l.whole
  if l.fraction = [] ∧ l.exponent = none ∧ left = [] ∧ ¬(l.negative ∧ n = 0) then
    some (if l.negative then -(n : Int) else n)
  else none

/-- The exponent of the greatest power of ten in the range of floats. -/
def maxPower : Nat := 308

/-- The float nearest to a power of ten. -/
def powerOfTen (n : Nat) : Binary64 :=
  Decimal.toBinary64 ⟨false, 1, n⟩

/-- A number times a power of ten. Zero stays zero, also where the power is out of range. -/
def scaleUp (x : Binary64) (n : Nat) : Binary64 :=
  if x.isZero then x else x.mul (powerOfTen n)

/-- A number divided by a power of ten, in two steps if the power is too large for one. No number
below `2 ^ 64` is more than zero after two divisions by the greatest power. -/
def scaleDown (x : Binary64) (n : Nat) : Binary64 :=
  if n ≤ maxPower then x.div (powerOfTen n)
  else (x.div (powerOfTen maxPower)).div (powerOfTen (min (n - maxPower) maxPower))

/-- The float that the literal stands for. -/
def toBinary64 (l : Literal) : Binary64 :=
  let (significand, exponent) := l.scaled
  let x := Binary64.ofInt significand
  let scaled :=
    if 0 ≤ exponent then scaleUp x exponent.toNat else scaleDown x exponent.natAbs
  if l.negative then scaled.neg else scaled

/-- The number that the literal stands for: an integer if it writes one that is in range, and
else a float. A literal beyond the largest float stands for no number. -/
def toNumber? (l : Literal) : Option Number :=
  match l.integer? with
  | some n => Number.ofInt? n
  | none => Number.ofBinary64? l.toBinary64

end Literal

/-- The number that a text stands for, if it is a literal. -/
def Number.ofText? (text : List Char) : Option Number :=
  (Literal.ofText? text).bind Literal.toNumber?

/-- The written form of the number that a text stands for, for the examples below. -/
private def respelledNumber (text : String) : Option String :=
  (Number.ofText? text.toList).map fun n => String.ofList n.write

example : respelledNumber "-120" = some "-120" := by decide +kernel
example : respelledNumber "-0" = some "-0.0" := by decide +kernel
example : respelledNumber "18446744073709551616" = some "1.8446744073709552e+19" := by
  decide +kernel
example : respelledNumber "9007199254740993.0" = some "9007199254740994.0" := by decide +kernel
example : respelledNumber "1.7976931348623158e308" = none := by decide +kernel
example : respelledNumber "0e999" = some "0.0" := by decide +kernel
example : respelledNumber "01" = none := by decide +kernel

end Widgetry.Json
