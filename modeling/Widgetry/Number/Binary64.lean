/-!
# Binary floating point with 64 bits

A number of the format is a sign and a multiple of its least positive number `2 ^ -1074`, the
*unit*. Every operation is done exactly on units and rounded once, to the nearest number of the
format and of two equally near ones to the one with an even significand; `round` is the only
place where precision is lost.
-/

namespace Widgetry

/-- The finite numbers of the format: `significand * 2 ^ exponent` units with a sign. The
significand has at most 53 bits, all of them used unless the exponent is the least. -/
structure Finite64 where
  negative : Bool
  significand : Nat
  exponent : Nat
  canonical : significand < 1 <<< 53 ∧ (exponent = 0 ∨ 1 <<< 52 ≤ significand) ∧ exponent ≤ 2045
deriving DecidableEq

/-- The numbers of the format, the two infinities, and the result of an undefined operation. -/
inductive Binary64 where
  | finite (x : Finite64)
  | infinite (negative : Bool)
  | nan
deriving DecidableEq

namespace Finite64

/-- One is this many units. -/
def unitsOfOne : Nat := 1 <<< 1074

/-- The distance from zero, in units. -/
def magnitude (x : Finite64) : Nat :=
  x.significand <<< x.exponent

/-- The signed number of units. Both zeros are no units. -/
def units (x : Finite64) : Int :=
  if x.negative then -(x.magnitude : Int) else x.magnitude

/-- The zero of a sign. -/
def zero (negative : Bool) : Finite64 :=
  ⟨negative, 0, 0, by omega⟩

instance : Inhabited Finite64 := ⟨zero false⟩

/-- The opposite number; a zero changes its sign too. -/
def neg (x : Finite64) : Finite64 :=
  { x with negative := !x.negative }

/-- The integer that the number is, if it is one. -/
def toInt? (x : Finite64) : Option Int :=
  if x.magnitude % unitsOfOne = 0 then
    let n := x.magnitude / unitsOfOne
    some (if x.negative then -(n : Int) else n)
  else
    none

@[simp] theorem units_zero (negative : Bool) : (zero negative).units = 0 := by
  cases negative <;> simp [zero, units, magnitude]

theorem units_neg (x : Finite64) : x.neg.units = -x.units := by
  cases h : x.negative <;> simp [neg, units, magnitude, h]

end Finite64

namespace Binary64

open Finite64

instance : Inhabited Binary64 := ⟨.nan⟩

/-- The nearest natural number to `num / den`, an even one if two are equally near. -/
def roundDiv (num den : Nat) : Nat :=
  let q := num / den
  let r := num % den
  if 2 * r < den then q
  else if den < 2 * r then q + 1
  else q + q % 2

/-- The number with the given sign, significand and exponent; one that the format does not
hold is out of its range. -/
def assemble (negative : Bool) (significand exponent : Nat) : Binary64 :=
  if h : significand < 1 <<< 53 ∧ (exponent = 0 ∨ 1 <<< 52 ≤ significand) ∧ exponent ≤ 2045 then
    .finite ⟨negative, significand, exponent, h⟩
  else
    .infinite negative

/-- The number of the format that is nearest to `num / den` units, with the given sign. The
significand is rounded at the exponent that leaves it 53 bits; a carry out of them moves to the
next exponent. -/
def round (negative : Bool) (num den : Nat) : Binary64 :=
  let exponent := Nat.log2 (num / den) - 52
  let significand := roundDiv num (den <<< exponent)
  if significand = 1 <<< 53 then assemble negative (1 <<< 52) (exponent + 1)
  else assemble negative significand exponent

/-- The number nearest to an integer. -/
def ofInt (n : Int) : Binary64 :=
  round (n < 0) (n.natAbs * unitsOfOne) 1

def isNaN : Binary64 → Bool
  | .nan => true
  | _ => false

/-- Whether the number is zero, of either sign. -/
def isZero : Binary64 → Bool
  | .finite x => x.significand == 0
  | _ => false

/-- The order of two numbers; an undefined one has no order. The zeros are equal. -/
def compare? : Binary64 → Binary64 → Option Ordering
  | .finite x, .finite y => some (compare x.units y.units)
  | .finite _, .infinite negative => some (if negative then .gt else .lt)
  | .infinite negative, .finite _ => some (if negative then .lt else .gt)
  | .infinite a, .infinite b => some (if a = b then .eq else if a then .lt else .gt)
  | .nan, _ => none
  | _, .nan => none

/-- Equality of numbers: the zeros are equal, and an undefined number equals nothing. -/
def same (x y : Binary64) : Bool :=
  compare? x y == some .eq

/-- Whether the first number is less than the second. -/
def less (x y : Binary64) : Bool :=
  compare? x y == some .lt

def neg : Binary64 → Binary64
  | .finite x => .finite x.neg
  | .infinite negative => .infinite (!negative)
  | .nan => .nan

/-- The number nearest to a count of units. Nothing left over is a zero of the given sign. -/
def ofUnits (negativeZero : Bool) (units : Int) : Binary64 :=
  if units = 0 then .finite (zero negativeZero) else round (units < 0) units.natAbs 1

/-- The sum. It is a negative zero only if both terms are. -/
def add : Binary64 → Binary64 → Binary64
  | .finite x, .finite y => ofUnits (x.negative && y.negative) (x.units + y.units)
  | .infinite a, .infinite b => if a = b then .infinite a else .nan
  | .infinite a, .finite _ => .infinite a
  | .finite _, .infinite b => .infinite b
  | .nan, _ => .nan
  | _, .nan => .nan

def sub (x y : Binary64) : Binary64 :=
  add x y.neg

/-- The product, negative if one factor is. -/
def mul : Binary64 → Binary64 → Binary64
  | .finite x, .finite y =>
    round (x.negative != y.negative) (x.magnitude * y.magnitude) unitsOfOne
  | .infinite a, .infinite b => .infinite (a != b)
  | .infinite a, .finite y => if y.significand = 0 then .nan else .infinite (a != y.negative)
  | .finite x, .infinite b => if x.significand = 0 then .nan else .infinite (x.negative != b)
  | .nan, _ => .nan
  | _, .nan => .nan

/-- The quotient; a division by zero is infinite, of zero by zero undefined. -/
def div : Binary64 → Binary64 → Binary64
  | .finite x, .finite y =>
    if y.significand = 0 then
      if x.significand = 0 then .nan else .infinite (x.negative != y.negative)
    else
      round (x.negative != y.negative) (x.magnitude * unitsOfOne) y.magnitude
  | .infinite _, .infinite _ => .nan
  | .infinite a, .finite y => .infinite (a != y.negative)
  | .finite x, .infinite b => .finite (zero (x.negative != b))
  | .nan, _ => .nan
  | _, .nan => .nan

/-- What is left of the first number after taking the second away as often as it goes; it has
the sign of the first. -/
def rem : Binary64 → Binary64 → Binary64
  | .finite x, .finite y =>
    if y.significand = 0 then .nan else round x.negative (x.magnitude % y.magnitude) 1
  | .finite x, .infinite _ => .finite x
  | .infinite _, _ => .nan
  | .nan, _ => .nan
  | _, .nan => .nan

/-- The integer that the number is, if it is one. -/
def toInt? : Binary64 → Option Int
  | .finite x => x.toInt?
  | _ => none

/-- The number, if it is finite. -/
def finite? : Binary64 → Option Finite64
  | .finite x => some x
  | _ => none

example : add (ofInt 1) (ofInt 2) = ofInt 3 := by decide +kernel
example : div (ofInt 1) (ofInt 0) = .infinite false := by decide +kernel
example : ofInt 9007199254740993 = ofInt 9007199254740992 := by decide +kernel
example : rem (ofInt (-7)) (ofInt 2) = ofInt (-1) := by decide +kernel

end Binary64

end Widgetry
