import Mathlib
import Widgetry.Rule.Outcome

/-!
# Numbers that need no rounding

The nearest number of the format to one that the format holds is that number itself. So the value
that a finite number is written as is read back as the same number, save that a zero may lose its
sign.
-/

namespace Widgetry

namespace Finite64

theorem magnitude_eq (x : Finite64) : x.magnitude = x.significand * 2 ^ x.exponent :=
  Nat.shiftLeft_eq _ _

theorem natAbs_units (x : Finite64) : x.units.natAbs = x.magnitude := by
  unfold units
  split <;> simp

theorem unitsOfOne_pos : 0 < unitsOfOne := by
  decide

/-- The exponent that leaves the magnitude of a number 53 bits is the one of the number. -/
theorem log2_magnitude (x : Finite64) : Nat.log2 x.magnitude - 52 = x.exponent := by
  obtain ⟨hlt, hnormal, -⟩ := x.canonical
  have hpos : 0 < 2 ^ x.exponent := Nat.two_pow_pos _
  rw [magnitude_eq]
  by_cases hzero : x.significand = 0
  · -- only the least exponent goes with no significand
    have hexponent : x.exponent = 0 := by omega
    simp [hzero, hexponent]
  · rcases hnormal with hexponent | hnormal
    · have hlog : Nat.log2 x.significand < 53 := (Nat.log2_lt hzero).2 hlt
      rw [hexponent, Nat.pow_zero, Nat.mul_one]
      omega
    · have hne : x.significand * 2 ^ x.exponent ≠ 0 :=
        Nat.mul_ne_zero hzero (Nat.ne_of_gt hpos)
      have hlog : Nat.log2 (x.significand * 2 ^ x.exponent) = 52 + x.exponent := by
        rw [Nat.log2_eq_iff hne, Nat.add_right_comm, Nat.pow_add, Nat.pow_add]
        exact ⟨Nat.mul_le_mul_right _ hnormal, Nat.mul_lt_mul_of_pos_right hlt hpos⟩
      rw [hlog, Nat.add_sub_cancel_left]

/-- A number is an integer if its units are a multiple of those of one. -/
theorem toInt?_eq_some_iff (x : Finite64) (n : Int) :
    x.toInt? = some n ↔ x.units = n * unitsOfOne := by
  have hsign : x.units = if x.negative then -(x.magnitude : Int) else x.magnitude := rfl
  constructor
  · intro h
    unfold toInt? at h
    split at h
    next hmod =>
      have hmul : x.magnitude = x.magnitude / unitsOfOne * unitsOfOne :=
        (Nat.div_mul_cancel (Nat.dvd_of_mod_eq_zero hmod)).symm
      have hcast : (x.magnitude : Int) = (x.magnitude / unitsOfOne : Nat) * unitsOfOne := by
        exact_mod_cast hmul
      rw [← Option.some.inj h, hsign]
      split
      next => rw [Int.neg_mul, ← hcast]
      next => exact hcast
    next => cases h
  · intro h
    have hmagnitude : x.magnitude = n.natAbs * unitsOfOne := by
      rw [← x.natAbs_units, h, Int.natAbs_mul, Int.natAbs_natCast]
    have hpos : (0 : Int) < unitsOfOne := Int.natCast_pos.2 unitsOfOne_pos
    unfold toInt?
    rw [hmagnitude, Nat.mul_mod_left, if_pos rfl]
    simp only [Nat.mul_div_cancel _ unitsOfOne_pos]
    refine congrArg some (Int.eq_of_mul_eq_mul_right (Int.ne_of_gt hpos) ?_)
    rw [← h, hsign, hmagnitude]
    split
    next => rw [Int.natCast_mul, Int.neg_mul]
    next => rw [Int.natCast_mul]

end Finite64

namespace Binary64

open Finite64

theorem roundDiv_mul_self (n : Nat) {den : Nat} (h : 0 < den) : roundDiv (n * den) den = n := by
  simp [roundDiv, Nat.mul_div_cancel _ h, h]

/-- A magnitude that the format holds is not rounded. -/
theorem round_magnitude (negative : Bool) (x : Finite64) :
    round negative x.magnitude 1 = .finite { x with negative } := by
  have hexponent := x.log2_magnitude
  have hsignificand : roundDiv x.magnitude (1 <<< x.exponent) = x.significand := by
    rw [magnitude_eq, Nat.shiftLeft_eq, Nat.one_mul]
    exact roundDiv_mul_self _ (Nat.two_pow_pos _)
  have hne : x.significand ≠ 1 <<< 53 := Nat.ne_of_lt x.canonical.1
  unfold round
  rw [Nat.div_one, hexponent]
  simp only [hsignificand, if_neg hne]
  rw [assemble, dif_pos x.canonical]

/-- An integer that a number of the format has come to is not rounded. -/
theorem exists_ofInt_eq {x : Finite64} {n : Int} (h : x.toInt? = some n) :
    ∃ y, ofInt n = .finite y ∧ y.units = x.units := by
  have hunits : x.units = n * unitsOfOne := (x.toInt?_eq_some_iff n).1 h
  have hmagnitude : x.magnitude = n.natAbs * unitsOfOne := by
    rw [← x.natAbs_units, hunits, Int.natAbs_mul, Int.natAbs_natCast]
  refine ⟨{ x with negative := n < 0 }, ?_, ?_⟩
  · rw [ofInt, ← hmagnitude]
    exact round_magnitude _ x
  · have hsign : ({ x with negative := n < 0 } : Finite64).units =
        if n < 0 then -(x.magnitude : Int) else x.magnitude := by
      simp [units, magnitude]
    rw [hsign, hunits, hmagnitude, Int.natCast_mul]
    split
    next hneg => rw [Int.ofNat_natAbs_of_nonpos (Int.le_of_lt hneg), Int.neg_mul, Int.neg_neg]
    next hneg => rw [Int.natAbs_of_nonneg (Int.not_lt.1 hneg)]

end Binary64

/-- The value of a finite number is a number, which has the same units and the same value. -/
theorem Json.exists_ofFinite_eq (x : Finite64) :
    ∃ n y, Json.ofFinite x = .num n ∧ n.toBinary64 = .finite y ∧ y.units = x.units ∧
      Json.ofFinite y = Json.ofFinite x := by
  unfold ofFinite
  cases h : x.toInt? with
  | none => exact ⟨.float x, x, rfl, rfl, rfl, by rw [h]⟩
  | some n =>
      dsimp only
      split
      next hlt =>
        have hword : IsWord n := by
          rw [Nat.shiftLeft_eq] at hlt
          unfold IsWord
          omega
        obtain ⟨y, hy, hunits⟩ := Binary64.exists_ofInt_eq h
        have hint : y.toInt? = some n := by
          rw [y.toInt?_eq_some_iff, hunits, ← x.toInt?_eq_some_iff, h]
        have hnumber : int n = .num (.integer n hword) := by
          rw [int, Number.ofInt?, dif_pos hword]
          rfl
        refine ⟨.integer n hword, y, hnumber, hy, hunits, ?_⟩
        rw [hint]
        exact if_pos hlt
      next hlt =>
        refine ⟨.float x, x, rfl, rfl, rfl, ?_⟩
        rw [h]
        exact if_neg hlt

end Widgetry
