import Mathlib
import Widgetry.Number.Decimal

/-!
# The texts of decimals

The text of a decimal is a sign, digits with at most one point, and an exponent. These are the texts
that are read as decimals, and what is read is the number that their digits write.
-/

namespace Widgetry

/-- A sign, which may be left out. -/
inductive IsSign : List Char → Prop where
  | none : IsSign []
  | plus : IsSign ['+']
  | minus : IsSign ['-']

/-- Whether a text has no characters but digits. -/
def IsDigits (s : List Char) : Prop :=
  ∀ c ∈ s, c.isDigit = true

/-- Digits, at least one of them, with at most one point before, between or after them. -/
inductive IsMantissa : List Char → Prop where
  | whole {whole : List Char} (hne : whole ≠ []) (hwhole : IsDigits whole) : IsMantissa whole
  | point {whole fraction : List Char} (hne : ¬(whole = [] ∧ fraction = []))
      (hwhole : IsDigits whole) (hfraction : IsDigits fraction) :
      IsMantissa (whole ++ '.' :: fraction)

/-- The exponent of a decimal, which may be left out. -/
inductive IsExponent : List Char → Prop where
  | none : IsExponent []
  | some {letter : Char} {sign digits : List Char} (hletter : letter = 'e' ∨ letter = 'E')
      (hsign : IsSign sign) (hne : digits ≠ []) (hdigits : IsDigits digits) :
      IsExponent (letter :: (sign ++ digits))

/-- A sign, digits with at most one point, and an exponent. -/
inductive IsDecimal : List Char → Prop where
  | intro {sign mantissa exponent : List Char} (hsign : IsSign sign)
      (hmantissa : IsMantissa mantissa) (hexponent : IsExponent exponent) :
      IsDecimal (sign ++ (mantissa ++ exponent))

namespace Decimal

theorem exists_sign (s : List Char) : ∃ sign, IsSign sign ∧ s = sign ++ (splitSign s).2 := by
  unfold splitSign
  split
  · exact ⟨['-'], .minus, rfl⟩
  · exact ⟨['+'], .plus, rfl⟩
  · exact ⟨[], .none, rfl⟩

/-- A sign is taken off a text that goes on without one. -/
theorem splitSign_append {sign s : List Char} (hsign : IsSign sign)
    (hs : ∀ c ∈ s.head?, c ≠ '+' ∧ c ≠ '-') :
    splitSign (sign ++ s) = (decide (sign = ['-']), s) := by
  cases hsign with
  | plus => rfl
  | minus => rfl
  | none =>
      rw [List.nil_append]
      unfold splitSign
      split
      · exact absurd rfl (hs '-' rfl).2
      · exact absurd rfl (hs '+' rfl).1
      · rfl

theorem takeWhile_digits {digits rest : List Char} (hdigits : IsDigits digits)
    (hrest : ∀ c ∈ rest.head?, c.isDigit = false) :
    (digits ++ rest).takeWhile Char.isDigit = digits := by
  rw [List.takeWhile_append_of_pos hdigits]
  cases rest with
  | nil => simp
  | cons c rest => simp [hrest c rfl]

theorem dropWhile_digits {digits rest : List Char} (hdigits : IsDigits digits)
    (hrest : ∀ c ∈ rest.head?, c.isDigit = false) :
    (digits ++ rest).dropWhile Char.isDigit = rest := by
  rw [List.dropWhile_append_of_pos hdigits]
  cases rest with
  | nil => rfl
  | cons c rest => simp [hrest c rfl]

theorem isDigits_takeWhile (s : List Char) : IsDigits (s.takeWhile Char.isDigit) :=
  fun _ hc => List.mem_takeWhile_imp hc

theorem head?_isExponent {s : List Char} (h : IsExponent s) :
    ∀ c ∈ s.head?, c = 'e' ∨ c = 'E' := by
  cases h with
  | none => simp
  | some hletter => simpa using hletter

/-- An exponent begins with no character of the number before it. -/
theorem isDigit_head?_of_isExponent {s : List Char} (h : IsExponent s) :
    ∀ c ∈ s.head?, c.isDigit = false := by
  intro c hc
  rcases head?_isExponent h c hc with rfl | rfl <;> rfl

theorem isDigit_head? {s : List Char} (h : IsDigits s) : ∀ c ∈ s.head?, c.isDigit = true :=
  fun c hc => h c (List.mem_of_mem_head? hc)

theorem ne_sign_of_isDigit {c : Char} (h : c.isDigit = true) : c ≠ '+' ∧ c ≠ '-' := by
  constructor
  · rintro rfl
    cases h
  · rintro rfl
    cases h

theorem isSome_readExponent?_iff (s : List Char) :
    (readExponent? s).isSome = true ↔ IsExponent s := by
  constructor
  · intro h
    unfold readExponent? at h
    split at h
    next => exact .none
    next c rest =>
      split at h
      next hletter =>
        obtain ⟨sign, hsign, hrest⟩ := exists_sign rest
        dsimp only at h
        split at h
        next hdigits =>
          rw [hrest]
          exact .some hletter hsign hdigits.1 (List.all_eq_true.1 hdigits.2)
        next => cases h
      next => cases h
  · intro h
    cases h with
    | none => rfl
    | @some letter sign digits hletter hsign hne hdigits =>
        have hsplit : splitSign (sign ++ digits) = (decide (sign = ['-']), digits) :=
          splitSign_append hsign fun c hc => ne_sign_of_isDigit (isDigit_head? hdigits c hc)
        have hall : digits.all Char.isDigit = true := List.all_eq_true.2 hdigits
        simp [readExponent?, hletter, hsplit, hne, hall]

section

variable {sign whole fraction exponent : List Char} (hsign : IsSign sign)
  (hwhole : IsDigits whole) (hfraction : IsDigits fraction) (hexponent : IsExponent exponent)

include hsign hwhole hexponent

/-- The value of a decimal without a point. -/
theorem ofText?_whole (hne : whole ≠ []) :
    ofText? (sign ++ (whole ++ exponent)) =
      (readExponent? exponent).map fun e => ⟨decide (sign = ['-']), ofDigits whole, e⟩ := by
  have hstop := isDigit_head?_of_isExponent hexponent
  have hbegin : ∀ c ∈ (whole ++ exponent).head?, c ≠ '+' ∧ c ≠ '-' := by
    rw [List.head?_append_of_ne_nil _ hne]
    exact fun c hc => ne_sign_of_isDigit (isDigit_head? hwhole c hc)
  unfold ofText?
  dsimp only
  rw [splitSign_append hsign hbegin, takeWhile_digits hwhole hstop, dropWhile_digits hwhole hstop]
  split
  next more =>
    -- an exponent begins with no point
    rcases head?_isExponent hexponent '.' rfl with h | h
    · cases h
    · cases h
  next => simp [hne]

include hfraction

/-- The value of a decimal with a point. -/
theorem ofText?_point (hne : ¬(whole = [] ∧ fraction = [])) :
    ofText? (sign ++ (whole ++ '.' :: fraction ++ exponent)) =
      (readExponent? exponent).map fun e =>
        ⟨decide (sign = ['-']), ofDigits (whole ++ fraction), e - fraction.length⟩ := by
  have hstop := isDigit_head?_of_isExponent hexponent
  have hbegin : ∀ c ∈ (whole ++ '.' :: (fraction ++ exponent)).head?, c ≠ '+' ∧ c ≠ '-' := by
    cases whole with
    | nil => simp
    | cons c whole => simpa using ne_sign_of_isDigit (hwhole c List.mem_cons_self)
  rw [List.append_assoc, List.cons_append]
  unfold ofText?
  dsimp only
  rw [splitSign_append hsign hbegin, takeWhile_digits hwhole (by simp),
    dropWhile_digits hwhole (by simp)]
  simp only [takeWhile_digits hfraction hstop, dropWhile_digits hfraction hstop, if_neg hne]

end

theorem isDecimal_of_isSome_ofText? {s : List Char} (h : (ofText? s).isSome = true) :
    IsDecimal s := by
  obtain ⟨sign, hsign, hs⟩ := exists_sign s
  unfold ofText? at h
  dsimp only at h
  generalize (splitSign s).2 = body at h hs
  generalize (splitSign s).1 = negative at h
  have hwhole := isDigits_takeWhile body
  have hbody : body.takeWhile Char.isDigit ++ body.dropWhile Char.isDigit = body :=
    List.takeWhile_append_dropWhile
  rw [hs, ← hbody]
  split at h
  next more hafter =>
    split at h
    next => cases h
    next hne =>
      rw [Option.isSome_map, isSome_readExponent?_iff] at h
      have hmore : more.takeWhile Char.isDigit ++ more.dropWhile Char.isDigit = more :=
        List.takeWhile_append_dropWhile
      have hdecimal := IsDecimal.intro hsign (.point hne hwhole (isDigits_takeWhile more)) h
      rw [hafter]
      rwa [List.append_assoc, List.cons_append, hmore] at hdecimal
  next =>
    dsimp only at h
    split at h
    next => cases h
    next hne =>
      rw [Option.isSome_map, isSome_readExponent?_iff] at h
      exact .intro hsign (.whole (by simpa using hne) hwhole) h

/-- The texts that are read as decimals. -/
theorem isSome_ofText?_iff (s : List Char) : (ofText? s).isSome = true ↔ IsDecimal s := by
  refine ⟨isDecimal_of_isSome_ofText?, ?_⟩
  rintro ⟨hsign, hmantissa, hexponent⟩
  have hread := (isSome_readExponent?_iff _).2 hexponent
  cases hmantissa with
  | whole hne hwhole => rw [ofText?_whole hsign hwhole hexponent hne, Option.isSome_map, hread]
  | point hne hwhole hfraction =>
      rw [ofText?_point hsign hwhole hfraction hexponent hne, Option.isSome_map, hread]

end Decimal

end Widgetry
