import Widgetry.Number.Binary64

/-!
# Decimal numbers and their text

A decimal is a sign, a natural number and a power of ten. `ofText?` reads the usual text of one
(sign, digits with at most one point among or beside them, exponent), and `toBinary64` gives the
nearest binary number. Texts with very long exponents are decided by their size alone, so no
power of ten larger than the format needs is ever computed.
-/

namespace Widgetry

/-- The number `digits * 10 ^ exponent` with a sign. -/
structure Decimal where
  negative : Bool
  digits : Nat
  exponent : Int
deriving DecidableEq, Inhabited

namespace Decimal

/-- The number of decimal digits of a positive number. Zero has none. -/
def width (n : Nat) : Nat :=
  if n = 0 then 0 else (Nat.toDigits 10 n).length

/-- The nearest binary number. From `10 ^ 400` on every number is out of range, and below
`10 ^ -400` every number is nearest to zero. -/
def toBinary64 (d : Decimal) : Binary64 :=
  let top := d.exponent + width d.digits
  if d.digits = 0 then .finite (.zero d.negative)
  else if 400 < top then .infinite d.negative
  else if top < -400 then .finite (.zero d.negative)
  else if 0 ≤ d.exponent then
    .round d.negative (d.digits * Nat.pow 10 d.exponent.toNat * Finite64.unitsOfOne) 1
  else
    .round d.negative (d.digits * Finite64.unitsOfOne) (Nat.pow 10 d.exponent.natAbs)

/-- The value of a digit. -/
def digitValue (c : Char) : Nat :=
  c.toNat - '0'.toNat

/-- The number that a text of digits writes. -/
def ofDigits (digits : List Char) : Nat :=
  digits.foldl (fun n c => 10 * n + digitValue c) 0

/-- Takes an optional sign off a text. -/
def splitSign : List Char → Bool × List Char
  | '-' :: rest => (true, rest)
  | '+' :: rest => (false, rest)
  | rest => (false, rest)

/-- The value of an exponent part, which is absent or a letter `e`, an optional sign and at least
one digit. -/
def readExponent? : List Char → Option Int
  | [] => some 0
  | c :: rest =>
    if c = 'e' ∨ c = 'E' then
      let (negative, digits) := splitSign rest
      if digits ≠ [] ∧ digits.all Char.isDigit then
        some (if negative then -(ofDigits digits : Int) else ofDigits digits)
      else none
    else none

/-- Reads an optional sign, digits, an optional point with digits, and an optional exponent. At
least one digit stands before the exponent, on either side of the point. -/
def ofText? (text : List Char) : Option Decimal :=
  let (negative, body) := splitSign text
  let whole := body.takeWhile Char.isDigit
  let afterWhole := body.dropWhile Char.isDigit
  let (fraction, rest) := match afterWhole with
    | '.' :: more => (more.takeWhile Char.isDigit, more.dropWhile Char.isDigit)
    | other => ([], other)
  if whole = [] ∧ fraction = [] then none
  else (readExponent? rest).map fun exponent =>
    ⟨negative, ofDigits (whole ++ fraction), exponent - fraction.length⟩

/-- The binary number nearest to the decimal that a text writes. -/
def readBinary64? (text : List Char) : Option Binary64 :=
  (ofText? text).map toBinary64

example : ofText? "-12.50e3".toList = some ⟨true, 1250, 1⟩ := by decide +kernel
example : ofText? "1.".toList = some ⟨false, 1, 0⟩ := by decide +kernel
example : ofText? ".".toList = none := by decide +kernel

end Decimal

end Widgetry
