import Widgetry.Number.Decimal

/-!
# The shortest decimal that reads back

A finite binary number is the nearest one to every real in an interval around it. Among the
decimals in that interval, `shortest` takes one with the fewest digits, and of those the nearest
to the number. Everything is compared in whole quarters of a unit, so the bounds are exact.

`write` lays the digits out: plainly, always with a fraction, from `10 ^ -5` up to `10 ^ 16`, and
otherwise with an exponent.
-/

namespace Widgetry

namespace Finite64

/-- Four times the magnitude: the number itself, in quarters of a unit. -/
def quarters (x : Finite64) : Nat :=
  4 * x.magnitude

/-- The lower end of the magnitudes that round to `x`, in quarters of a unit. Below a power of
two the numbers lie twice as close. -/
def lowerQuarters (x : Finite64) : Nat :=
  x.quarters - (if x.significand = 1 <<< 52 ∧ x.exponent ≠ 0 then 1 else 2) <<< x.exponent

/-- The upper end of the magnitudes that round to `x`, in quarters of a unit. -/
def upperQuarters (x : Finite64) : Nat :=
  x.quarters + 2 <<< x.exponent

/-- One in quarters of a unit. -/
def quartersOfOne : Nat :=
  4 * unitsOfOne

/-- A magnitude in quarters of a unit, and `digits * 10 ^ exponent`, both multiplied by the power
of ten that makes them natural numbers. -/
def onGrid (exponent : Int) (digits quarters : Nat) : Nat × Nat :=
  (digits * quartersOfOne * Nat.pow 10 exponent.toNat, quarters * Nat.pow 10 (-exponent).toNat)

/-- Whether `digits * 10 ^ exponent` rounds to the magnitude of `x`. The ends of the interval
belong to it when the significand is even. -/
def readsBack (x : Finite64) (exponent : Int) (digits : Nat) : Bool :=
  let (value, lower) := onGrid exponent digits x.lowerQuarters
  let (_, upper) := onGrid exponent digits x.upperQuarters
  if x.significand % 2 = 0 then lower ≤ value && value ≤ upper
  else lower < value && value < upper

/-- The nearest number of tens to the magnitude of `x` on the grid of one exponent that still
reads back; of two equally near ones an even one. -/
def onExponent? (x : Finite64) (exponent : Int) : Option Nat :=
  let (one, number) := onGrid exponent 1 x.quarters
  let below := number / one
  let nearest := Binary64.roundDiv number one
  let other := if nearest = below then below + 1 else below
  if x.readsBack exponent nearest then some nearest
  else if x.readsBack exponent other then some other
  else none

/-- The exponent of ten just above the magnitude: `10 ^ (top - 1) ≤ magnitude < 10 ^ top`. -/
def top (x : Finite64) : Int :=
  (Decimal.width (x.magnitude * Nat.pow 10 324 / unitsOfOne) : Int) - 324

/-- Takes the zeros at the end of a number off into the exponent, at most `fuel` of them. -/
def dropZeros : Nat → Nat → Int → Nat × Int
  | 0, digits, exponent => (digits, exponent)
  | fuel + 1, digits, exponent =>
    if digits ≠ 0 ∧ digits % 10 = 0 then dropZeros fuel (digits / 10) (exponent + 1)
    else (digits, exponent)

/-- The digits and the exponent of the shortest decimal that reads back. Seventeen digits always
suffice. -/
def shortest (x : Finite64) : Nat × Int :=
  let found := (List.range 17).findSome? fun i : Nat =>
    let exponent := x.top - (i + 1)
    (x.onExponent? exponent).map fun digits => (digits, exponent)
  match found with
  | some (digits, exponent) => dropZeros 18 digits exponent
  | none => (0, 0)

/-- The digits of a number, the most significant first. -/
def digitText (n : Nat) : List Char :=
  Nat.toDigits 10 n

/-- The text of an exponent, always signed. -/
def exponentText (e : Int) : List Char :=
  (if e < 0 then '-' else '+') :: digitText e.natAbs

/-- The text of `digits * 10 ^ exponent`. -/
def layOut (digits : Nat) (exponent : Int) : List Char :=
  let ds := digitText digits
  let point : Int := ds.length + exponent
  if -5 < point ∧ point ≤ 16 then
    if 0 ≤ exponent then ds ++ List.replicate exponent.toNat '0' ++ ['.', '0']
    else if 0 < point then ds.take point.toNat ++ '.' :: ds.drop point.toNat
    else '0' :: '.' :: (List.replicate (-point).toNat '0' ++ ds)
  else
    match ds with
    | [d] => d :: 'e' :: exponentText (point - 1)
    | d :: more => d :: '.' :: (more ++ 'e' :: exponentText (point - 1))
    | [] => []

/-- The text of a number: its sign, and the shortest decimal that reads back. -/
def write (x : Finite64) : List Char :=
  let body := if x.significand = 0 then ['0', '.', '0'] else
    let (digits, exponent) := x.shortest
    layOut digits exponent
  if x.negative then '-' :: body else body

end Finite64

/-- The written form of the number that a text reads as, for the examples below. -/
private def respelled (text : String) : Option String :=
  match Decimal.readBinary64? text.toList with
  | some (.finite x) => some (String.ofList x.write)
  | _ => none

example : respelled "0.1" = some "0.1" := by decide +kernel
example : respelled "1e16" = some "1e+16" := by decide +kernel
example : respelled "123456789012345680" = some "1.2345678901234568e+17" := by decide +kernel
example : respelled "0.00001" = some "0.00001" := by decide +kernel
example : respelled "1e-6" = some "1e-6" := by decide +kernel
example : respelled "5e-324" = some "5e-324" := by decide +kernel

end Widgetry
