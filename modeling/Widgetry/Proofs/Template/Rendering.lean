import Widgetry.Template
import Widgetry.Proofs.Number.Integer
import Widgetry.Proofs.Number.IntegerText

/-!
# Integral numbers in texts

A number that is an integer is shown as that integer as long as it has no more than 64 bits, and
beyond them as the last one that has. So what is shown up to `2 ^ 63` counts as the number that was
shown, alone or in a text with blanks around it, and what is shown of a greater number does not.
-/

namespace Widgetry

/-- The integer that is shown has the same nearest number up to `2 ^ 63`, and not beyond. -/
theorem same_ofInt_shownInt_iff {x : Finite64} {i : Int} (hx : x.toInt? = some i) :
    (Binary64.ofInt (shownInt i)).same (.finite x) = true ↔ i.natAbs ≤ 2 ^ 63 := by
  have hupper : (Binary64.ofInt 0x7fffffffffffffff).toInt? = some 0x8000000000000000 := by
    decide +kernel
  have hlower : (Binary64.ofInt (-0x8000000000000000)).toInt? = some (-0x8000000000000000) := by
    decide +kernel
  by_cases hhigh : 0x7fffffffffffffff < i
  · have hshown : shownInt i = 0x7fffffffffffffff := by unfold shownInt; omega
    rw [hshown, Binary64.same_iff_of_toInt? hupper (y := .finite x) hx]
    omega
  · by_cases hlow : i < -0x8000000000000000
    · have hshown : shownInt i = -0x8000000000000000 := by unfold shownInt; omega
      rw [hshown, Binary64.same_iff_of_toInt? hlower (y := .finite x) hx]
      omega
    · have hshown : shownInt i = i := by unfold shownInt; omega
      obtain ⟨y, hy, hunits⟩ := Binary64.exists_ofInt_eq hx
      rw [hshown, hy, Binary64.same_finite_iff]
      exact iff_of_true hunits (by omega)

/-- Whether a value counts as a number. -/
def Json.CountsAs (v : Json) (x : Binary64) : Prop :=
  ∃ y, v.toNumber? = some y ∧ y.same x = true

section

variable {n : Json.Number} {i : Int} (hi : n.toBinary64.toInt? = some i)
  (hlt : i.natAbs < 10 ^ 21)

include hi hlt

theorem Json.display_of_toInt? :
    (Json.num n).display = String.ofList (intText (shownInt i)) := by
  have hshow : n.show = intText (shownInt i) := by
    rw [Json.Number.show, hi]
    exact if_pos hlt
  rw [Json.display, hshow]

/-- What is shown of a number is the text of an integer whose nearest number it is, up to `2 ^ 63`. -/
theorem Json.exists_intText_eq_display_iff :
    (∃ m, (Json.num n).display = String.ofList (intText m) ∧
      (Binary64.ofInt m).same n.toBinary64 = true) ↔ i.natAbs ≤ 2 ^ 63 := by
  obtain ⟨x, hx, hint⟩ := Binary64.exists_finite_of_toInt? hi
  rw [Json.display_of_toInt? hi hlt, hx, ← same_ofInt_shownInt_iff hint]
  constructor
  · rintro ⟨m, htext, hsame⟩
    rwa [intText_injective (String.ofList_injective htext)]
  · exact fun hsame => ⟨_, rfl, hsame⟩

/-- What is shown of a number, with blanks around it, counts as that number up to `2 ^ 63`. -/
theorem Json.countsAs_surrounded_iff {before after : String}
    (hbefore : Text.isBlankText before = true) (hafter : Text.isBlankText after = true) :
    (Json.str (before ++ (Json.num n).display ++ after)).CountsAs n.toBinary64 ↔
      i.natAbs ≤ 2 ^ 63 := by
  obtain ⟨x, hx, hint⟩ := Binary64.exists_finite_of_toInt? hi
  have hsmall : (shownInt i).natAbs < 10 ^ 400 := by
    have hword : (shownInt i).natAbs ≤ 2 ^ 63 := by unfold shownInt; omega
    exact Nat.lt_of_le_of_lt hword (by decide +kernel)
  have hread := readNumber?_intText hsmall hbefore hafter
  rw [String.ofList_append, String.ofList_append, String.ofList_toList, String.ofList_toList,
    ← Json.display_of_toInt? hi hlt, ← String.append_assoc] at hread
  rw [hx, ← same_ofInt_shownInt_iff hint]
  constructor
  · rintro ⟨y, hy, hsame⟩
    obtain rfl := Option.some.inj (hread.symm.trans hy)
    exact hsame
  · exact fun hsame => ⟨_, hread, hsame⟩

end

/-- A number equals a text loosely if the text counts as the number. -/
theorem Json.looseEq_str_iff (n : Json.Number) (s : String) :
    (Json.num n).looseEq (.str s) = true ↔ (Json.str s).CountsAs n.toBinary64 := by
  have hnumber : (Json.num n).toNumber? = some n.toBinary64 := rfl
  have hscalar : ((Json.num n).isScalar && (Json.str s).isScalar) = true := rfl
  simp only [Json.looseEq, hnumber, hscalar, if_true, Json.CountsAs]
  cases (Json.str s).toNumber? with
  | none => simp
  | some y => simp [Binary64.same_comm n.toBinary64]

/-- The expressions that join the value of `e` to texts, with the text that comes before it and the
one that comes after it. -/
inductive Expr.Joins (e : Expr) : String → String → Expr → Prop where
  | before (s : String) : Joins e s "" (.binary .add (.literal (.str s)) e)
  | after (s : String) : Joins e "" s (.binary .add e (.literal (.str s)))
  | moreBefore (s : String) {before after : String} {joined : Expr}
      (h : Joins e before after joined) :
      Joins e (s ++ before) after (.binary .add (.literal (.str s)) joined)
  | moreAfter (s : String) {before after : String} {joined : Expr}
      (h : Joins e before after joined) :
      Joins e before (after ++ s) (.binary .add joined (.literal (.str s)))

/-- The template of a binding between two texts. -/
def Template.around (before : String) (source : List Char) (e : Expr) (after : String) : Template :=
  ⟨textSegment before.toList ++ .binding source e :: textSegment after.toList⟩

theorem Template.displayAll_textSegment {scope : Scope} (s : String) {rest : List Segment}
    {more : String} (hrest : displayAll scope rest = .ok more) :
    displayAll scope (textSegment s.toList ++ rest) = .ok (s ++ more) := by
  unfold textSegment
  split
  next hnil =>
    rw [String.toList_eq_nil_iff.1 hnil, String.empty_append]
    exact hrest
  next =>
    rw [List.singleton_append, displayAll, Segment.display, hrest, String.ofList_toList]
    rfl

theorem Template.textSegment_toList_eq_nil {s : String} (h : textSegment s.toList = []) :
    s = "" := by
  unfold textSegment at h
  split at h
  next hnil => exact String.toList_eq_nil_iff.1 hnil
  next => cases h

/-- A sum with a string is the text of both values. -/
theorem Expr.eval_add {scope : Scope} {left right : Expr} {x y : Json}
    (hx : left.eval scope = .ok x) (hy : right.eval scope = .ok y)
    (hstring : (x.isString || y.isString) = true) :
    (Expr.binary .add left right).eval scope = .ok (.str (x.display ++ y.display)) := by
  rw [Expr.eval, hx, hy]
  exact congrArg Except.ok (if_pos hstring)

section

variable {scope : Scope} {e : Expr} {v : Json} (h : e.eval scope = .ok v)

include h

theorem Expr.Joins.eval_eq {before after : String} {joined : Expr}
    (hjoins : e.Joins before after joined) :
    joined.eval scope = .ok (.str (before ++ v.display ++ after)) := by
  induction hjoins with
  | before s =>
      rw [Expr.eval_add rfl h rfl, String.append_empty]
      rfl
  | after s =>
      rw [Expr.eval_add h rfl (Bool.or_true _), String.empty_append]
      rfl
  | moreBefore s _ ih =>
      rw [Expr.eval_add rfl ih rfl, String.append_assoc, String.append_assoc, String.append_assoc]
      rfl
  | moreAfter s _ ih =>
      rw [Expr.eval_add ih rfl rfl, ← String.append_assoc]
      rfl

/-- A binding that has a text beside it is rendered. -/
theorem Template.eval_around (source : List Char) {before after : String}
    (hne : ¬(before = "" ∧ after = "")) :
    (Template.around before source e after).eval scope =
      .ok (.str (before ++ v.display ++ after)) := by
  have hafter : displayAll scope (textSegment after.toList ++ []) = .ok (after ++ "") :=
    displayAll_textSegment after rfl
  rw [List.append_nil, String.append_empty] at hafter
  have hbinding : displayAll scope (.binding source e :: textSegment after.toList) =
      .ok (v.display ++ after) := by
    rw [displayAll, Segment.display, h, hafter]
    rfl
  have hall := displayAll_textSegment before hbinding
  unfold Template.around Template.eval
  dsimp only
  split
  next hsingle =>
    -- a binding alone has no text on either side
    have hlength := congrArg List.length hsingle
    rw [List.length_append, List.length_cons, List.length_singleton] at hlength
    refine absurd ⟨textSegment_toList_eq_nil (List.eq_nil_of_length_eq_zero ?_),
      textSegment_toList_eq_nil (List.eq_nil_of_length_eq_zero ?_)⟩ hne
    · omega
    · omega
  next => rw [hall, String.append_assoc]; rfl

end

/-- **Rendering of integral numbers.** A number that is an integer below `10 ^ 21` is shown as an
integer to which it is the nearest number, and so is loosely equal to what is shown and counted for
it wherever it is rendered with blanks around it, exactly if it is not beyond `2 ^ 63`. -/
theorem display_restores_iff {n : Json.Number} {i : Int} (hi : n.toBinary64.toInt? = some i)
    (hlt : i.natAbs < 10 ^ 21) :
    ((∃ m, (Json.num n).display = String.ofList (intText m) ∧
        (Binary64.ofInt m).same n.toBinary64 = true) ↔ i.natAbs ≤ 2 ^ 63) ∧
      ((Json.num n).looseEq (.str (Json.num n).display) = true ↔ i.natAbs ≤ 2 ^ 63) ∧
      ∀ (scope : Scope) (e : Expr) (before after : String), e.eval scope = .ok (.num n) →
        Text.isBlankText before = true → Text.isBlankText after = true →
        ∃ v, (∀ joined, e.Joins before after joined → joined.eval scope = .ok v) ∧
          (¬(before = "" ∧ after = "") → ∀ source,
            (Template.around before source e after).eval scope = .ok v) ∧
          (v.CountsAs n.toBinary64 ↔ i.natAbs ≤ 2 ^ 63) := by
  refine ⟨Json.exists_intText_eq_display_iff hi hlt, ?_, ?_⟩
  · have hblank : Text.isBlankText "" = true := rfl
    rw [Json.looseEq_str_iff, ← Json.countsAs_surrounded_iff hi hlt hblank hblank,
      String.empty_append, String.append_empty]
  · intro scope e before after h hbefore hafter
    refine ⟨.str (before ++ (Json.num n).display ++ after), ?_, ?_, ?_⟩
    · exact fun joined hjoins => hjoins.eval_eq h
    · exact fun hne source => Template.eval_around h source hne
    · exact Json.countsAs_surrounded_iff hi hlt hbefore hafter

/-- An integer that no float holds is shown as its nearest float, and is equal to what is shown. -/
theorem display_restores_iff_odd :
    (Json.int 9007199254740993).display = "9007199254740992" ∧
      (Json.int 9007199254740993).looseEq "9007199254740992" = true := by
  have hdisplay : (Json.int 9007199254740993).display = "9007199254740992" := by decide +kernel
  have hint : (Binary64.ofInt 9007199254740993).toInt? = some 9007199254740992 := by decide +kernel
  obtain ⟨-, hloose, -⟩ :=
    display_restores_iff (n := .integer 9007199254740993 (by decide)) hint (by decide)
  refine ⟨hdisplay, ?_⟩
  rw [← hdisplay]
  exact hloose.2 (by decide)

/-- A number that is an integer of more than 64 bits is not equal to what is shown of it. -/
theorem not_looseEq_display :
    (Json.float (.ofInt 100000000000000000000)).display = "9223372036854775807" ∧
      (Json.float (.ofInt 100000000000000000000)).looseEq
        (.str (Json.float (.ofInt 100000000000000000000)).display) = false := by
  constructor
  · decide +kernel
  · decide +kernel

end Widgetry
