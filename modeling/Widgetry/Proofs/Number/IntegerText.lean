import Widgetry.Proofs.Number.Numeral

/-!
# The texts of integers

An integer is read back from its text: as a decimal it is the integer, and as a number the one that
is nearest to it. So no two integers have one text. A text of digits without needless zeros is the
text of the number that it writes.
-/

namespace Widgetry

/-- The sign of the text of an integer. -/
def intSign (n : Int) : List Char :=
  if n < 0 then ['-'] else []

theorem intText_eq (n : Int) : intText n = intSign n ++ Nat.toDigits 10 n.natAbs := by
  unfold intText intSign
  split
  · rfl
  · rfl

theorem isSign_intSign (n : Int) : IsSign (intSign n) := by
  unfold intSign
  split
  · exact .minus
  · exact .none

theorem intSign_eq_minus_iff (n : Int) : intSign n = ['-'] ↔ n < 0 := by
  simp [intSign]

theorem isDigits_toDigits (n : Nat) : IsDigits (Nat.toDigits 10 n) :=
  fun _ hc => Nat.isDigit_of_mem_toDigits (by decide) (by decide) hc

theorem isDecimal_intText (n : Int) : IsDecimal (intText n) := by
  have h := IsDecimal.intro (isSign_intSign n)
    (.whole Nat.toDigits_ne_nil (isDigits_toDigits n.natAbs)) .none
  rwa [List.append_nil, ← intText_eq] at h

theorem isBlank_of_isDecimalChar {c : Char} (h : isDecimalChar c = true) :
    Text.isBlank c = false := by
  simp only [isDecimalChar, Bool.or_eq_true, decide_eq_true_eq] at h
  rcases h with ((((hdigit | rfl) | rfl) | rfl) | rfl) | rfl
  · have hbounds : 48 ≤ c.toNat ∧ c.toNat ≤ 57 := by
      simpa [Char.isDigit, UInt32.le_iff_toNat_le] using hdigit
    simp only [Text.isBlank, Text.blankRanges, Text.Ranges.contains, List.any_cons, List.any_nil,
      Bool.or_false, Bool.or_eq_false_iff, Bool.and_eq_false_iff, decide_eq_false_iff_not]
    omega
  all_goals decide

namespace Decimal

theorem ofDigits_toDigits (n : Nat) : ofDigits (Nat.toDigits 10 n) = n := by
  have h : Nat.ofDigitChars 10 (Nat.toDigits 10 n) 0 = n := Nat.ofDigitChars_ten_toDigits
  rwa [Nat.ofDigitChars_eq_foldl] at h

theorem exists_digitChar_of_isDigit {c : Char} (h : c.isDigit) :
    ∃ d, d < 10 ∧ c = Nat.digitChar d ∧ digitValue c = d := by
  have hbounds : 48 ≤ c.toNat ∧ c.toNat ≤ 57 := by
    simpa [Char.isDigit, UInt32.le_iff_toNat_le] using h
  have hdigits : ∀ d, d < 10 → Char.ofNat (48 + d) = Nat.digitChar d := by decide
  have hd : c.toNat - 48 < 10 := by omega
  refine ⟨c.toNat - 48, hd, ?_, rfl⟩
  rw [← hdigits _ hd, Nat.add_sub_cancel' hbounds.1, Char.ofNat_toNat]

/-- Digits after those of a number other than zero are the digits of the number with them. -/
theorem toDigits_foldl {n : Nat} (hpos : 0 < n) {digits : List Char}
    (h : digits.all Char.isDigit = true) :
    Nat.toDigits 10 (digits.foldl (fun n c => 10 * n + digitValue c) n) =
      Nat.toDigits 10 n ++ digits := by
  induction digits generalizing n with
  | nil => rw [List.foldl_nil, List.append_nil]
  | cons c rest ih =>
      rw [List.all_cons, Bool.and_eq_true] at h
      obtain ⟨d, hd, rfl, hvalue⟩ := exists_digitChar_of_isDigit h.1
      rw [List.foldl_cons, hvalue, ih (by omega) h.2,
        ← Nat.toDigits_append_toDigits (by decide) hpos hd, Nat.toDigits_of_lt_base hd,
        List.append_assoc, List.singleton_append]

/-- A text of digits without needless zeros is the decimal text of the number that it writes. -/
theorem toDigits_ofDigits {digits : List Char} (hne : digits ≠ [])
    (hdigits : digits.all Char.isDigit = true)
    (hzero : digits.head? ≠ some '0' ∨ digits.length = 1) :
    Nat.toDigits 10 (ofDigits digits) = digits := by
  obtain ⟨c, rest, rfl⟩ := List.exists_cons_of_ne_nil hne
  rw [List.all_cons, Bool.and_eq_true] at hdigits
  obtain ⟨d, hd, rfl, hvalue⟩ := exists_digitChar_of_isDigit hdigits.1
  rw [ofDigits, List.foldl_cons, hvalue, Nat.mul_zero, Nat.zero_add]
  rcases Nat.eq_zero_or_pos d with rfl | hpos
  · -- a zero in front stands alone
    have hrest : rest = [] := by simpa using hzero
    rw [hrest]
    rfl
  · rw [toDigits_foldl hpos hdigits.2, Nat.toDigits_of_lt_base hd, List.singleton_append]

/-- The decimal text of a number other than zero does not begin with a zero. -/
theorem head?_toDigits {n : Nat} (hpos : 0 < n) : (Nat.toDigits 10 n).head? ≠ some '0' := by
  induction n using Nat.strongRecOn with
  | ind n ih =>
      rcases Nat.lt_or_ge n 10 with hlt | hge
      · rw [Nat.toDigits_of_lt_base hlt, List.head?_cons, ne_eq, Option.some.injEq,
          Nat.digitChar_eq_zero]
        omega
      · rw [Nat.toDigits_of_base_le (by decide) hge,
          List.head?_append_of_ne_nil _ Nat.toDigits_ne_nil]
        exact ih (n / 10) (by omega) (by omega)

/-- An integer is the decimal that its text is read as. -/
theorem ofText?_intText (n : Int) : ofText? (intText n) = some ⟨decide (n < 0), n.natAbs, 0⟩ := by
  have h := ofText?_whole (isSign_intSign n) (isDigits_toDigits n.natAbs) .none
    Nat.toDigits_ne_nil
  rw [List.append_nil, ← intText_eq, ofDigits_toDigits] at h
  rw [h]
  simp [readExponent?, intSign_eq_minus_iff]

/-- The nearest number to an integer does not depend on whether it is taken as a decimal. -/
theorem toBinary64_integer {n : Int} (h : n.natAbs < 10 ^ 400) :
    toBinary64 ⟨decide (n < 0), n.natAbs, 0⟩ = .ofInt n := by
  by_cases hzero : n.natAbs = 0
  · obtain rfl := Int.natAbs_eq_zero.1 hzero
    rfl
  · have hwidth : width n.natAbs ≤ 400 := by
      rw [width, if_neg hzero]
      exact Nat.toDigits_length 10 n.natAbs 400 (by decide) h
    have hhigh : ¬(400 : Int) < 0 + width n.natAbs := by omega
    have hlow : ¬(0 + width n.natAbs : Int) < -400 := by omega
    unfold toBinary64
    dsimp only
    rw [if_neg hzero, if_neg hhigh, if_neg hlow, if_pos (Int.le_refl 0)]
    simp [Binary64.ofInt]

end Decimal

theorem intText_injective : Function.Injective intText := by
  intro n m h
  have hread := Decimal.ofText?_intText n
  rw [h, Decimal.ofText?_intText] at hread
  obtain ⟨hsign, habs, -⟩ := Decimal.mk.inj (Option.some.inj hread)
  have hnegative : m < 0 ↔ n < 0 := decide_eq_decide.1 hsign
  omega

/-- The text of an integer, with blanks around it, is read as the nearest number. -/
theorem readNumber?_intText {n : Int} (h : n.natAbs < 10 ^ 400) {before after : List Char}
    (hbefore : before.all Text.isBlank = true) (hafter : after.all Text.isBlank = true) :
    readNumber? (String.ofList (before ++ (intText n ++ after))) = some (.ofInt n) := by
  have hdecimal := isDecimal_intText n
  have htrim : Text.trim (String.ofList (before ++ (intText n ++ after))).toList = intText n := by
    rw [String.toList_ofList]
    refine Text.trim_append hbefore (fun c hc => ?_) hafter
    exact isBlank_of_isDecimalChar (isDecimalChar_of_isDecimal hdecimal c hc)
  rw [readNumber?_of_isDecimal (by rwa [htrim]), htrim, Decimal.readBinary64?,
    Decimal.ofText?_intText, Option.map_some, Decimal.toBinary64_integer h]

end Widgetry
