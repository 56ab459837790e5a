import Mathlib.Algebra.Group.Nat.Defs
import Widgetry.WidgetId

/-!
# Ids that come back

The digits of a number come back as what of the number there is room for. An id is a number for
which 32 digits are room enough, and it is written in the form with hyphens, which is taken for none
of the other forms that are read. So every id comes back from its text.
-/

namespace Widgetry

namespace Text

theorem mem_hexDigits {width n : Nat} {c : Char} (h : c ∈ hexDigits width n) :
    ∃ d, d < 16 ∧ c = Nat.digitChar d := by
  induction width generalizing n with
  | zero => cases h
  | succ width ih =>
      rw [hexDigits, List.mem_append, List.mem_singleton] at h
      rcases h with h | rfl
      · exact ih h
      · exact ⟨n % 16, Nat.mod_lt n (by decide), rfl⟩

theorem readHex?_append_singleton (digits : List Char) (c : Char) :
    readHex? (digits ++ [c]) =
      (readHex? digits).bind fun n => (hexDigit? c).map (16 * n + ·) := by
  rw [readHex?, List.foldlM_append]
  refine congrArg (Option.bind _) ?_
  funext n
  exact List.foldlM_cons.trans (bind_pure _)

/-- Digits read back as the number that they have room for. -/
theorem readHex?_hexDigits (width n : Nat) :
    readHex? (hexDigits width n) = some (n % 16 ^ width) := by
  induction width generalizing n with
  | zero => rw [Nat.pow_zero, Nat.mod_one, hexDigits]; rfl
  | succ width ih =>
      rw [hexDigits, readHex?_append_singleton, ih, Option.bind_some,
        hexDigit?_digitChar _ (Nat.mod_lt n (by decide)), Option.map_some, Nat.pow_succ',
        Nat.mod_mul, Nat.add_comm]

end Text

namespace WidgetId

/-- Groups of digits with hyphens between them. -/
def hyphenated (a b c d e : List Char) : List Char :=
  a ++ '-' :: b ++ '-' :: c ++ '-' :: d ++ '-' :: e

section Groups

variable {a b c d e : List Char}
  (h : [a.length, b.length, c.length, d.length, e.length] = [8, 4, 4, 4, 12])

include h

theorem ofGroups?_hyphenated :
    ofGroups? (hyphenated a b c d e) = ofDigits? (a ++ b ++ c ++ d ++ e) := by
  simp only [List.cons.injEq, and_true] at h
  obtain ⟨ha, hb, hc, hd, he⟩ := h
  have hlength : (hyphenated a b c d e).length = 36 := by
    simp [hyphenated, ha, hb, hc, hd, he]
  have hhyphens :
      ([8, 13, 18, 23].all fun i => (hyphenated a b c d e)[i]? = some '-') = true := by
    simp [hyphenated, List.getElem?_append, ha, hb, hc, hd]
  rw [ofGroups?, if_pos ⟨hlength, hhyphens⟩]
  simp [hyphenated, List.drop_append, List.drop_of_length_le, ha, hb, hc, hd]

/-- The form with hyphens is taken for none of the other forms if no brace stands in front. -/
theorem ofChars?_hyphenated (hbrace : a.head? ≠ some '\x7b') :
    ofChars? (hyphenated a b c d e) = ofDigits? (a ++ b ++ c ++ d ++ e) := by
  have hgroups := ofGroups?_hyphenated h
  simp only [List.cons.injEq, and_true] at h
  obtain ⟨ha, hb, hc, hd, he⟩ := h
  have hlength : (hyphenated a b c d e).length ≠ 32 := by
    simp [hyphenated, ha, hb, hc, hd, he]
  have hhead : (hyphenated a b c d e).head? = a.head? := by
    cases a with
    | nil => cases ha
    | cons first rest => rfl
  -- the last character of a lead is a colon, where here a hyphen stands
  have hlead : ((hyphenated a b c d e).take resourceLead.length).map Char.toLower ≠
      resourceLead := by
    have hwidth : resourceLead.length = 9 := by decide
    have htake : (hyphenated a b c d e).take 9 = a ++ ['-'] := by
      simp [hyphenated, List.take_append, List.take_of_length_le, ha]
    rw [hwidth, htake, List.map_append, List.map_singleton]
    intro heq
    have hlast := congrArg List.getLast? heq
    rw [List.getLast?_concat] at hlast
    revert hlast
    decide
  rw [ofChars?, if_neg hlength, hhead, if_neg fun hboth => hbrace hboth.1, if_neg hlead, hgroups]

end Groups

theorem groups_append (digits : List Char) :
    digits.take 8 ++ (digits.drop 8).take 4 ++ (digits.drop 12).take 4 ++
      (digits.drop 16).take 4 ++ digits.drop 20 = digits := by
  simp [← List.take_add]

/-- No digit is a brace. -/
theorem head?_take_hexDigits_ne (width n : Nat) :
    ((Text.hexDigits width n).take 8).head? ≠ some '\x7b' := by
  intro h
  have hmem := List.mem_of_mem_take (List.mem_of_head? h)
  obtain ⟨d, hd, heq⟩ := Text.mem_hexDigits hmem
  have hall : ∀ d, d < 16 → '\x7b' ≠ Nat.digitChar d := by decide
  exact hall d hd heq

theorem ofDigits?_hexDigits (id : WidgetId) :
    ofDigits? (Text.hexDigits 32 id.bits.toNat) = some id := by
  have hbound : id.bits.toNat < 16 ^ 32 := id.bits.isLt
  rw [ofDigits?, if_pos (Text.length_hexDigits _ _), Text.readHex?_hexDigits,
    Nat.mod_eq_of_lt hbound, Option.map_some, BitVec.ofNat_toNat, BitVec.setWidth_eq]

/-- Every id comes back from its text. -/
theorem ofText?_toText (id : WidgetId) : ofText? id.toText = some id := by
  have hchars : id.toChars =
      let digits := Text.hexDigits 32 id.bits.toNat
      hyphenated (digits.take 8) ((digits.drop 8).take 4) ((digits.drop 12).take 4)
        ((digits.drop 16).take 4) (digits.drop 20) := rfl
  rw [ofText?, toText, String.toList_ofList, hchars, ofChars?_hyphenated, groups_append,
    ofDigits?_hexDigits]
  · simp [Text.length_hexDigits]
  · exact head?_take_hexDigits_ne _ _

end WidgetId

end Widgetry
