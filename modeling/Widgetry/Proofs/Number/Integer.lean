import Widgetry.Proofs.Number.Exact

/-!
# Integers among the numbers of the format

Every integer below `2 ^ 53` is a number of the format, and no other integer is rounded to one
below this bound. Numbers that are equal are the same integer, if they are integers at all.
-/

namespace Widgetry

namespace Binary64

open Finite64

/-! ## Equality -/

theorem same_finite_iff (x y : Finite64) :
    same (.finite x) (.finite y) = true ↔ x.units = y.units := by
  simp [same, compare?]

theorem same_comm (x y : Binary64) : x.same y = y.same x := by
  rw [Bool.eq_iff_iff]
  cases x with
  | finite x =>
      cases y with
      | finite y => rw [same_finite_iff, same_finite_iff, eq_comm]
      | infinite negative => cases negative <;> rfl
      | nan => rfl
  | infinite negative =>
      cases y with
      | finite y => cases negative <;> rfl
      | infinite other => cases negative <;> cases other <;> rfl
      | nan => rfl
  | nan => cases y <;> rfl

theorem exists_finite_of_same {x : Finite64} {y : Binary64} (h : same (.finite x) y = true) :
    ∃ z : Finite64, y = .finite z ∧ x.units = z.units := by
  cases y with
  | finite z => exact ⟨z, rfl, (same_finite_iff x z).1 h⟩
  | infinite negative => cases negative <;> cases h
  | nan => cases h

theorem exists_finite_of_toInt? {x : Binary64} {n : Int} (h : x.toInt? = some n) :
    ∃ y : Finite64, x = .finite y ∧ y.toInt? = some n := by
  cases x with
  | finite y => exact ⟨y, rfl, h⟩
  | infinite negative => cases h
  | nan => cases h

/-- Two numbers that are integers are equal if they are the same integer. -/
theorem same_iff_of_toInt? {x y : Binary64} {n m : Int} (hx : x.toInt? = some n)
    (hy : y.toInt? = some m) : x.same y = true ↔ n = m := by
  obtain ⟨a, rfl, hn⟩ := exists_finite_of_toInt? hx
  obtain ⟨b, rfl, hm⟩ := exists_finite_of_toInt? hy
  have hpos : (unitsOfOne : Int) ≠ 0 := Int.natCast_ne_zero.2 (Nat.ne_of_gt unitsOfOne_pos)
  rw [same_finite_iff, (a.toInt?_eq_some_iff n).1 hn, (b.toInt?_eq_some_iff m).1 hm]
  exact Int.mul_eq_mul_right_iff hpos

/-- A number that equals an integer of the format is that integer. -/
theorem toInt?_eq_of_same {x y : Binary64} {n : Int} (hx : x.toInt? = some n)
    (h : x.same y = true) : y.toInt? = some n := by
  obtain ⟨a, rfl, hn⟩ := exists_finite_of_toInt? hx
  obtain ⟨b, rfl, hunits⟩ := exists_finite_of_same h
  exact (b.toInt?_eq_some_iff n).2 (hunits ▸ (a.toInt?_eq_some_iff n).1 hn)

theorem toInt?_congr {x y : Binary64} (h : x.same y = true) : x.toInt? = y.toInt? := by
  cases hx : x.toInt? with
  | some n => exact (toInt?_eq_of_same hx h).symm
  | none =>
      cases hy : y.toInt? with
      | none => rfl
      | some m =>
          rw [same_comm] at h
          exact hx.symm.trans (toInt?_eq_of_same hy h)

/-! ## Integers below the bound -/

/-- One is a power of two in units. Its exponent is kept apart, so that the power is not computed. -/
theorem exists_unitsOfOne_eq : ∃ bits, bits = 1074 ∧ unitsOfOne = 2 ^ bits := by
  have hpow (bits : Nat) (h : bits = 1074) : unitsOfOne = 2 ^ bits := by
    rw [← Nat.one_shiftLeft, h, unitsOfOne]
  exact ⟨_, rfl, hpow _ rfl⟩

/-- An integer below `2 ^ 53` is a number of the format. -/
theorem exists_toInt?_eq {n : Int} (h : n.natAbs < 2 ^ 53) :
    ∃ x : Finite64, x.toInt? = some n := by
  by_cases hzero : n.natAbs = 0
  · obtain rfl := Int.natAbs_eq_zero.1 hzero
    exact ⟨zero false, by rw [toInt?_eq_some_iff, units_zero, Int.zero_mul]⟩
  · obtain ⟨hlow, hhigh⟩ := (Nat.log2_eq_iff hzero).1 (rfl : n.natAbs.log2 = n.natAbs.log2)
    have hlog : n.natAbs.log2 < 53 := (Nat.log2_lt hzero).2 h
    generalize n.natAbs.log2 = k at hlow hhigh hlog
    -- the significand uses all its bits
    have hlower : 1 <<< 52 ≤ n.natAbs * 2 ^ (52 - k) :=
      calc 1 <<< 52 = 2 ^ k * 2 ^ (52 - k) := by
            rw [Nat.one_shiftLeft, ← Nat.pow_add, Nat.add_sub_cancel' (by omega)]
        _ ≤ n.natAbs * 2 ^ (52 - k) := Nat.mul_le_mul_right _ hlow
    have hupper : n.natAbs * 2 ^ (52 - k) < 1 <<< 53 :=
      calc n.natAbs * 2 ^ (52 - k) < 2 ^ (k + 1) * 2 ^ (52 - k) :=
            Nat.mul_lt_mul_of_pos_right hhigh (Nat.two_pow_pos _)
        _ = 1 <<< 53 := by
            rw [Nat.one_shiftLeft, ← Nat.pow_add]
            exact congrArg (2 ^ ·) (by omega)
    obtain ⟨bits, hbits, hone⟩ := exists_unitsOfOne_eq
    have hmagnitude : (n.natAbs * 2 ^ (52 - k)) <<< (k + 1022) = n.natAbs * unitsOfOne := by
      rw [Nat.shiftLeft_eq, hone, Nat.mul_assoc, ← Nat.pow_add]
      exact congrArg (n.natAbs * 2 ^ ·) (by omega)
    refine ⟨⟨decide (n < 0), n.natAbs * 2 ^ (52 - k), k + 1022, hupper, Or.inr hlower, by omega⟩, ?_⟩
    rw [toInt?_eq_some_iff, units, magnitude]
    dsimp only
    rw [hmagnitude, Int.natCast_mul]
    split
    next hneg =>
      rw [Int.ofNat_natAbs_of_nonpos (Int.le_of_lt (of_decide_eq_true hneg)), Int.neg_mul,
        Int.neg_neg]
    next hneg => rw [Int.natAbs_of_nonneg (by simpa using hneg)]

theorem toInt?_ofInt {n : Int} (h : n.natAbs < 2 ^ 53) : (ofInt n).toInt? = some n := by
  obtain ⟨x, hx⟩ := exists_toInt?_eq h
  obtain ⟨y, hy, hunits⟩ := exists_ofInt_eq hx
  rw [hy]
  exact (y.toInt?_eq_some_iff n).2 (hunits ▸ (x.toInt?_eq_some_iff n).1 hx)

/-! ## Integers beyond the bound -/

theorem le_roundDiv (num den : Nat) : num / den ≤ roundDiv num den := by
  unfold roundDiv
  dsimp only
  split
  · exact Nat.le_refl _
  · split <;> omega

theorem magnitude_of_assemble {negative : Bool} {significand exponent : Nat} {x : Finite64}
    (h : assemble negative significand exponent = .finite x) :
    x.magnitude = significand * 2 ^ exponent := by
  unfold assemble at h
  split at h
  next hcanonical =>
    obtain rfl := Binary64.finite.inj h
    exact Nat.shiftLeft_eq _ _
  next => cases h

/-- No magnitude is rounded below a power of two that it reaches. -/
theorem two_pow_le_magnitude_of_round {negative : Bool} {num k : Nat} {x : Finite64}
    (hk : 52 ≤ k) (hnum : 2 ^ k ≤ num) (h : round negative num 1 = .finite x) :
    2 ^ k ≤ x.magnitude := by
  have hne : num ≠ 0 := Nat.ne_of_gt (Nat.lt_of_lt_of_le (Nat.two_pow_pos k) hnum)
  have hlog : k ≤ num.log2 := (Nat.le_log2 hne).2 hnum
  have hexponent : num.log2 - 52 + 52 = num.log2 := Nat.sub_add_cancel (by omega)
  have hlow : 2 ^ num.log2 ≤ num := Nat.log2_self_le hne
  unfold round at h
  dsimp only at h
  rw [Nat.div_one, Nat.one_shiftLeft] at h
  generalize num.log2 = l at *
  obtain ⟨e, rfl⟩ : ∃ e, l = e + 52 := ⟨l - 52, hexponent.symm⟩
  rw [Nat.add_sub_cancel] at h
  have hsignificand : 2 ^ 52 ≤ roundDiv num (2 ^ e) := by
    refine Nat.le_trans ?_ (le_roundDiv _ _)
    rw [Nat.le_div_iff_mul_le (Nat.two_pow_pos e), ← Nat.pow_add, Nat.add_comm]
    exact hlow
  have hpow : 2 ^ k ≤ 2 ^ 52 * 2 ^ e := by
    rw [← Nat.pow_add]
    exact Nat.pow_le_pow_right (by decide) (by omega)
  split at h
  next hcarry =>
    rw [magnitude_of_assemble h, Nat.one_shiftLeft]
    have hsucc : 2 ^ e ≤ 2 ^ (e + 1) := Nat.pow_le_pow_right (by decide) (Nat.le_succ e)
    exact Nat.le_trans hpow (Nat.mul_le_mul_left _ hsucc)
  next =>
    rw [magnitude_of_assemble h]
    exact Nat.le_trans hpow (Nat.mul_le_mul_right _ hsignificand)

/-- An integer beyond the bound is not rounded below it. -/
theorem le_natAbs_of_toInt?_ofInt {n m : Int} (hn : 2 ^ 53 ≤ n.natAbs)
    (h : (ofInt n).toInt? = some m) : 2 ^ 53 ≤ m.natAbs := by
  obtain ⟨x, hx, hm⟩ := exists_finite_of_toInt? h
  obtain ⟨bits, -, hone⟩ := exists_unitsOfOne_eq
  have hpow : 2 ^ (53 + bits) ≤ n.natAbs * unitsOfOne := by
    rw [hone, Nat.pow_add]
    exact Nat.mul_le_mul_right _ hn
  have hle := two_pow_le_magnitude_of_round (by omega) hpow hx
  rw [← x.natAbs_units, (x.toInt?_eq_some_iff m).1 hm, Int.natAbs_mul, Int.natAbs_natCast,
    hone, Nat.pow_add] at hle
  exact Nat.le_of_mul_le_mul_right hle (Nat.two_pow_pos bits)

end Binary64

end Widgetry
