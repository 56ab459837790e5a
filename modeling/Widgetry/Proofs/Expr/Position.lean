import Widgetry.Expr.Eval
import Widgetry.Proofs.Number.Integer

/-!
# Items of arrays at equal numbers

An item of an array is selected by an integer, and by no float, also by one that is a whole number.
Two integers that are equal as numbers select the same item of every array of at most `2 ^ 53` items.
So equal numbers select the same item unless one is an integer, the other a float, and the item at
the integer is not `null`.
-/

namespace Widgetry

namespace Json

/-- Whether a number is a float. -/
def Number.isFloat : Number → Bool
  | .integer _ _ => false
  | .float _ => true

/-- The item of an array at the whole number that a number is, of whatever sort. -/
def itemAt (items : List Json) (x : Binary64) : Json :=
  ofOption (x.toInt?.bind fun k => if 0 ≤ k then items[k.toNat]? else none)

theorem at_integer (items : List Json) {k : Int} (hk : IsWord k) :
    (Json.arr items).at (.num (.integer k hk)) =
      ofOption (if 0 ≤ k then items[k.toNat]? else none) := by
  show ofOption ((Number.toNat? (.integer k hk)).bind fun i => items[i]?) = _
  unfold Number.toNat?
  dsimp only
  split <;> rfl

theorem at_float (items : List Json) (x : Finite64) :
    (Json.arr items).at (.num (.float x)) = .null :=
  rfl

/-- There is no item beyond the end of an array. -/
theorem item_eq_null {items : List Json} {k : Int} (h : items.length ≤ k.natAbs) :
    ofOption (if 0 ≤ k then items[k.toNat]? else none) = .null := by
  split
  next hk => rw [List.getElem?_eq_none (by omega)]; rfl
  next => rfl

section

variable {items : List Json} (hlength : items.length ≤ 2 ^ 53)

include hlength

/-- An integer selects the item at the number that it counts as. -/
theorem at_integer_eq_itemAt {k : Int} (hk : IsWord k) :
    (Json.arr items).at (.num (.integer k hk)) = itemAt items (.ofInt k) := by
  rw [at_integer]
  by_cases hsmall : k.natAbs < 2 ^ 53
  · rw [itemAt, Binary64.toInt?_ofInt hsmall, Option.bind_some]
  · -- neither the integer nor its nearest number lies in the array
    rw [item_eq_null (by omega), itemAt]
    cases hint : (Binary64.ofInt k).toInt? with
    | none => rfl
    | some m =>
        have hm := Binary64.le_natAbs_of_toInt?_ofInt (Nat.le_of_not_lt hsmall) hint
        exact (item_eq_null (by omega)).symm

end

theorem itemAt_congr (items : List Json) {x y : Binary64} (h : x.same y = true) :
    itemAt items x = itemAt items y := by
  rw [itemAt, itemAt, Binary64.toInt?_congr h]

/-- Equal numbers select the same item if they are of one sort, or if there is nothing to select. -/
theorem at_eq_at_iff {items : List Json} (hlength : items.length ≤ 2 ^ 53) {i j : Number}
    (h : (Json.num i).strictEq (.num j) = true) :
    (Json.arr items).at (.num i) = (Json.arr items).at (.num j) ↔
      i.isFloat = j.isFloat ∨ itemAt items i.toBinary64 = .null := by
  have hcongr : itemAt items i.toBinary64 = itemAt items j.toBinary64 := itemAt_congr items h
  cases i with
  | integer n hn =>
      rw [at_integer_eq_itemAt hlength hn]
      cases j with
      | integer m hm =>
          rw [at_integer_eq_itemAt hlength hm]
          exact iff_of_true hcongr (Or.inl rfl)
      | float y =>
          rw [at_float]
          exact (or_iff_right Bool.false_ne_true).symm
  | float x =>
      rw [at_float, hcongr]
      cases j with
      | integer m hm =>
          rw [at_integer_eq_itemAt hlength hm, eq_comm]
          exact (or_iff_right Bool.false_ne_true.symm).symm
      | float y => exact iff_of_true rfl (Or.inl rfl)

end Json

namespace Expr

theorem eval_index {scope : Scope} {array position : Expr} {v i : Json}
    (ha : array.eval scope = .ok v) (hi : position.eval scope = .ok i) :
    (Expr.index array position).eval scope = .ok (v.at i) := by
  rw [eval, ha, hi]
  rfl

/-- **Positions that are equal numbers.** In an array of at most `2 ^ 53` items, two positions that
are equal numbers give the same value exactly if both are integers, both are floats, or the item at
that number is absent or `null`. A float that is a whole number within the array gives the item
there only if that is `null`. -/
theorem eval_index_eq_iff {scope : Scope} {array left right : Expr} {items : List Json}
    {i j : Json.Number} (ha : array.eval scope = .ok (.arr items))
    (hi : left.eval scope = .ok (.num i)) (hj : right.eval scope = .ok (.num j))
    (hlength : items.length ≤ 2 ^ 53) (h : (Json.num i).strictEq (.num j) = true) :
    ((Expr.index array left).eval scope = (Expr.index array right).eval scope ↔
        i.isFloat = j.isFloat ∨ Json.itemAt items i.toBinary64 = .null) ∧
      ∀ x k, j = .float x → x.toInt? = some (k : Nat) → ∀ hk : k < items.length,
        ((Expr.index array right).eval scope = .ok items[k] ↔ items[k] = .null) := by
  rw [eval_index ha hi, eval_index ha hj]
  constructor
  · rw [Except.ok.injEq]
    exact Json.at_eq_at_iff hlength h
  · rintro x k rfl - hk
    rw [Json.at_float, Except.ok.injEq, eq_comm]

/-- An integer and a float select the same where an array has no item. -/
theorem eval_index_eq_iff_end :
    (Json.int 3).strictEq (.float (.ofInt 3)) = true ∧ ∀ scope,
      (Expr.index (.literal (.arr ["a", "b", "c"])) (.literal (.int 3))).eval scope =
        (Expr.index (.literal (.arr ["a", "b", "c"])) (.literal (.float (.ofInt 3)))).eval scope := by
  let three : Finite64 := ⟨false, 3 <<< 51, 1023, by decide⟩
  have hfloat : Json.float (.ofInt 3) = .num (.float three) := by
    have hfinite : Binary64.ofInt 3 = .finite three := by decide +kernel
    rw [hfinite]
    rfl
  have hsame : (Json.int 3).strictEq (.float (.ofInt 3)) = true := by decide +kernel
  have hint : (Binary64.ofInt 3).toInt? = some 3 := Binary64.toInt?_ofInt (by decide)
  have hnull : Json.itemAt ["a", "b", "c"] (.ofInt 3) = .null := by
    rw [Json.itemAt, hint]
    rfl
  refine ⟨hsame, fun scope => ?_⟩
  rw [hfloat] at hsame ⊢
  have hthree : (Expr.literal (.int 3)).eval scope = .ok (.num (.integer 3 (by decide))) := rfl
  have harray : (Expr.literal (.arr ["a", "b", "c"])).eval scope = .ok (.arr ["a", "b", "c"]) := rfl
  exact (eval_index_eq_iff harray hthree rfl (by decide) hsame).1.2 (Or.inr hnull)

/-- An integer selects the item at it, and the float of the same value does not. -/
theorem eval_index_ne :
    (Json.int 1).strictEq (.float (.ofInt 1)) = true ∧ ∀ scope,
      (Expr.index (.literal (.arr ["a", "b", "c"])) (.literal (.int 1))).eval scope = .ok "b" ∧
      (Expr.index (.literal (.arr ["a", "b", "c"])) (.literal (.float (.ofInt 1)))).eval scope =
        .ok .null := by
  refine ⟨by decide +kernel, fun scope => ⟨rfl, ?_⟩⟩
  have hfinite : Binary64.ofInt 1 = .finite ⟨false, 1 <<< 52, 1022, by decide⟩ := by decide +kernel
  rw [hfinite]
  rfl

end Expr

end Widgetry
