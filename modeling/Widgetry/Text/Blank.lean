import Widgetry.Text.Ranges

/-!
# Blanks

The characters that surround a text without belonging to it are those with the Unicode property
`White_Space`. `trim` takes them off both ends, and leaves nothing of a text that is blank.
-/

namespace Widgetry.Text

/-- The characters with the property `White_Space`. -/
def blankRanges : Ranges := [
  (0x9, 0xd), (0x20, 0x20), (0x85, 0x85), (0xa0, 0xa0), (0x1680, 0x1680), (0x2000, 0x200a),
  (0x2028, 0x2029), (0x202f, 0x202f), (0x205f, 0x205f), (0x3000, 0x3000)]

/-- Whether a character is a blank. -/
def isBlank (c : Char) : Bool :=
  blankRanges.contains c

/-- A text without the blanks at its beginning. -/
def trimLeft (s : List Char) : List Char :=
  s.dropWhile isBlank

/-- A text without the blanks at its ends. -/
def trim (s : List Char) : List Char :=
  (trimLeft (trimLeft s).reverse).reverse

/-- Whether a text holds nothing but blanks. -/
def isBlankText (s : String) : Bool :=
  s.toList.all isBlank

theorem trimLeft_cons (c : Char) (s : List Char) :
    trimLeft (c :: s) = if isBlank c then trimLeft s else c :: s := by
  rw [trimLeft, List.dropWhile_cons]
  rfl

theorem trimLeft_eq_nil_iff (s : List Char) : trimLeft s = [] ↔ s.all isBlank = true := by
  induction s with
  | nil => simp [trimLeft]
  | cons c s ih =>
    rw [trimLeft_cons]
    split
    next h => simpa [h] using ih
    next h => simp [h]

theorem all_isBlank_trimLeft (s : List Char) : (trimLeft s).all isBlank = s.all isBlank := by
  induction s with
  | nil => rfl
  | cons c s ih =>
    rw [trimLeft_cons]
    split
    next h => simpa [h] using ih
    next => rfl

theorem trim_eq_nil_iff (s : List Char) : trim s = [] ↔ s.all isBlank = true := by
  rw [trim, List.reverse_eq_nil_iff, trimLeft_eq_nil_iff, List.all_reverse,
    all_isBlank_trimLeft]

theorem trimLeft_trimLeft (s : List Char) : trimLeft (trimLeft s) = trimLeft s := by
  induction s with
  | nil => rfl
  | cons c s ih =>
    rw [trimLeft_cons]
    split
    next => exact ih
    next h => rw [trimLeft_cons, if_neg h]

/-- Whether a text begins with a blank does not depend on what follows it. -/
theorem trimLeft_of_trimLeft_append {s t : List Char} (h : trimLeft (s ++ t) = s ++ t) :
    trimLeft s = s := by
  cases s with
  | nil => rfl
  | cons c s =>
    rw [List.cons_append, trimLeft_cons] at h
    split at h
    next =>
      have hlength : (trimLeft (s ++ t)).length ≤ (s ++ t).length :=
        (List.dropWhile_sublist isBlank).length_le
      rw [h] at hlength
      simp only [List.length_cons] at hlength
      omega
    next hblank => rw [trimLeft_cons, if_neg hblank]

/-- A text that has been trimmed has no blanks at its ends. -/
theorem trim_trim (s : List Char) : trim (trim s) = trim s := by
  obtain ⟨lead, hlead⟩ : trimLeft (trimLeft s).reverse <:+ (trimLeft s).reverse :=
    List.dropWhile_suffix isBlank
  have hleft : trim s ++ lead.reverse = trimLeft s := by
    rw [trim, ← List.reverse_append, hlead, List.reverse_reverse]
  have hself : trimLeft (trim s) = trim s := by
    refine trimLeft_of_trimLeft_append ?_ (t := lead.reverse)
    rw [hleft, trimLeft_trimLeft]
  have hright : trimLeft (trim s).reverse = (trim s).reverse := by
    rw [trim, List.reverse_reverse, trimLeft_trimLeft]
  rw [trim, hself, hright, List.reverse_reverse]

theorem trimLeft_append {before : List Char} (hbefore : before.all isBlank = true)
    (s : List Char) : trimLeft (before ++ s) = trimLeft s :=
  List.dropWhile_append_of_pos (List.all_eq_true.1 hbefore)

theorem trimLeft_eq_self {s : List Char} (h : ∀ c ∈ s, isBlank c = false) : trimLeft s = s := by
  cases s with
  | nil => rfl
  | cons c s => rw [trimLeft_cons, if_neg (by simp [h c])]

/-- The blanks around a text without blanks are taken off. -/
theorem trim_append {before s after : List Char} (hbefore : before.all isBlank = true)
    (hs : ∀ c ∈ s, isBlank c = false) (hafter : after.all isBlank = true) :
    trim (before ++ (s ++ after)) = s := by
  have hright : trimLeft (trimLeft (s ++ after)).reverse = s.reverse := by
    cases s with
    | nil =>
        rw [List.nil_append, (trimLeft_eq_nil_iff after).2 hafter]
        rfl
    | cons c s =>
        have hc : ¬isBlank c = true := by simp [hs c]
        rw [List.cons_append, trimLeft_cons, if_neg hc, ← List.cons_append, List.reverse_append,
          trimLeft_append (by rwa [List.all_reverse])]
        exact trimLeft_eq_self fun d hd => hs d (List.mem_reverse.1 hd)
  rw [trim, trimLeft_append hbefore, hright, List.reverse_reverse]

theorem isBlankText_eq (s : String) : isBlankText s = decide (trim s.toList = []) := by
  rw [isBlankText, Bool.eq_iff_iff, decide_eq_true_iff, trim_eq_nil_iff]

/-- A text without the blanks at its ends. -/
def trimString (s : String) : String :=
  String.ofList (trim s.toList)

theorem trimString_trimString (s : String) : trimString (trimString s) = trimString s := by
  simp [trimString, trim_trim]

example : trimString "\u3000 a b\u00a0\n" = "a b" := by decide +kernel
example : isBlankText "\ufeff" = false := by decide +kernel

end Widgetry.Text
