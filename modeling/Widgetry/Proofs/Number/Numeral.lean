import Widgetry.InputText
import Widgetry.Proofs.Number.DecimalText

/-!
# Texts that write numbers

`IsNumeral` is the language of numbers in text: nothing, an infinity, a decimal, or digits of a
radix that is announced. What is read as a number is this language up to the radix numbers: those
that need more than 64 bits are not read, and a plus sign before their digits is.
-/

namespace Widgetry

/-! ## The language -/

/-- The value of a digit, in either letter case. What is no digit counts as sixteen. -/
def radixDigit (c : Char) : Nat :=
  "0123456789abcdef".toList.idxOf c.toLower

/-- Whether a text is digits of a radix, at least one. -/
structure IsRadixDigits (radix : Nat) (s : List Char) : Prop where
  ne_nil : s ≠ []
  lt : ∀ c ∈ s, radixDigit c < radix

/-- The number that digits write in a radix. -/
def radixValue (radix : Nat) (s : List Char) : Nat :=
  Nat.ofDigits radix (s.map radixDigit).reverse

/-- The letters that announce a radix after a zero. -/
def radixLetters : List (Char × Nat) :=
  [('x', 16), ('X', 16), ('o', 8), ('O', 8), ('b', 2), ('B', 2)]

/-- The texts of numbers, without blanks around them. -/
inductive IsNumeral : List Char → Prop where
  | empty : IsNumeral []
  | infinity {sign : List Char} (hsign : IsSign sign) : IsNumeral (sign ++ "Infinity".toList)
  | decimal {s : List Char} (hdecimal : IsDecimal s) : IsNumeral s
  | radix {letter : Char} {radix : Nat} {digits : List Char}
      (hletter : (letter, radix) ∈ radixLetters) (hdigits : IsRadixDigits radix digits) :
      IsNumeral ('0' :: letter :: digits)

/-- The numbers of a radix that need more than 64 bits. -/
inductive IsOverlong : List Char → Prop where
  | intro {letter : Char} {radix : Nat} {digits : List Char}
      (hletter : (letter, radix) ∈ radixLetters) (hdigits : IsRadixDigits radix digits)
      (hvalue : 2 ^ 64 ≤ radixValue radix digits) : IsOverlong ('0' :: letter :: digits)

/-- The numbers of a radix, of at most 64 bits, with a plus sign before their digits. -/
inductive IsPlusRadix : List Char → Prop where
  | intro {letter : Char} {radix : Nat} {digits : List Char}
      (hletter : (letter, radix) ∈ radixLetters) (hdigits : IsRadixDigits radix digits)
      (hvalue : radixValue radix digits < 2 ^ 64) : IsPlusRadix ('0' :: letter :: '+' :: digits)

/-- The texts that are read as numbers. -/
def IsReadable (s : List Char) : Prop :=
  (IsNumeral s ∧ ¬IsOverlong s) ∨ IsPlusRadix s

/-! ## Numbers of a radix -/

/-- The classes of characters hold characters of ASCII only. -/
theorem classes_eq_false {c : Char} (h : 128 ≤ c.toNat) :
    c.isDigit = false ∧ c.isLower = false ∧ c.isUpper = false := by
  have hval : c.val.toNat = c.toNat := rfl
  refine ⟨?_, ?_, ?_⟩
  · have hnine : '9'.val.toNat = 57 := rfl
    simp only [Char.isDigit, UInt32.le_iff_toNat_le, ge_iff_le, Bool.and_eq_false_iff,
      decide_eq_false_iff_not]
    omega
  · have hz : 'z'.val.toNat = 122 := rfl
    simp only [Char.isLower, UInt32.le_iff_toNat_le, ge_iff_le, Bool.and_eq_false_iff,
      decide_eq_false_iff_not]
    omega
  · have hz : 'Z'.val.toNat = 90 := rfl
    simp only [Char.isUpper, UInt32.le_iff_toNat_le, ge_iff_le, decide_eq_false_iff_not]
    omega

theorem radixDigit_of_le {c : Char} (h : 128 ≤ c.toNat) : radixDigit c = 16 := by
  obtain ⟨-, -, hupper⟩ := classes_eq_false h
  have hlower : c.toLower = c := Char.toLower_eq_of_not_isUpper (by simp [hupper])
  have hmem : c ∉ "0123456789abcdef".toList := by
    have hascii : "0123456789abcdef".toList.all (fun d => d.toNat < 128) = true := by decide
    intro hc
    have hlt := of_decide_eq_true (List.all_eq_true.1 hascii c hc)
    omega
  rw [radixDigit, hlower, List.idxOf_of_notMem hmem]
  rfl

theorem radixValue_eq_foldl (radix : Nat) (s : List Char) :
    radixValue radix s = s.foldl (fun n c => radix * n + radixDigit c) 0 := by
  rw [radixValue, Nat.ofDigits_eq_foldr, List.foldr_reverse, List.foldl_map]
  simp [Nat.add_comm]

section

variable {radix : Nat} (hradix : radix ∈ radixLetters.map Prod.snd)

include hradix

/-- The digits of ASCII, by their codes. -/
theorem digitBelow?_ofNat :
    ∀ n < 128, readRadix?.digitBelow? radix (Char.ofNat n) =
      if radixDigit (Char.ofNat n) < radix then some (radixDigit (Char.ofNat n)) else none := by
  simp only [radixLetters, List.map_cons, List.map_nil, List.mem_cons, List.not_mem_nil,
    or_false] at hradix
  rcases hradix with rfl | rfl | rfl | rfl | rfl | rfl <;> decide +kernel

theorem le_sixteen_of_mem : radix ≤ 16 := by
  have hall : ∀ r ∈ radixLetters.map Prod.snd, r ≤ 16 := by decide
  exact hall radix hradix

theorem digitBelow?_eq (c : Char) :
    readRadix?.digitBelow? radix c =
      if radixDigit c < radix then some (radixDigit c) else none := by
  rcases Nat.lt_or_ge c.toNat 128 with hascii | hlarge
  · have h := digitBelow?_ofNat hradix c.toNat hascii
    rwa [Char.ofNat_toNat] at h
  · obtain ⟨hdigit, hlower, hupper⟩ := classes_eq_false hlarge
    have hle := le_sixteen_of_mem hradix
    rw [radixDigit_of_le hlarge, if_neg (by omega)]
    simp [readRadix?.digitBelow?, hdigit, hlower, hupper]

/-- Digits are read from the left, after those that have been read. -/
theorem foldlM_digitBelow? {s : List Char} (hs : ∀ c ∈ s, radixDigit c < radix) (n : Nat) :
    s.foldlM (fun n c => (readRadix?.digitBelow? radix c).map (radix * n + ·)) n =
      some (s.foldl (fun n c => radix * n + radixDigit c) n) := by
  induction s generalizing n with
  | nil => rfl
  | cons c s ih =>
      have hc : readRadix?.digitBelow? radix c = some (radixDigit c) := by
        rw [digitBelow?_eq hradix, if_pos (hs c List.mem_cons_self)]
      rw [List.foldlM_cons, hc]
      exact ih (fun d hd => hs d (List.mem_cons_of_mem _ hd)) _

theorem lt_of_foldlM_digitBelow? {s : List Char} {n m : Nat}
    (h : s.foldlM (fun n c => (readRadix?.digitBelow? radix c).map (radix * n + ·)) n = some m) :
    ∀ c ∈ s, radixDigit c < radix := by
  induction s generalizing n with
  | nil => simp
  | cons c s ih =>
      rw [List.foldlM_cons, digitBelow?_eq hradix] at h
      by_cases hc : radixDigit c < radix
      · rw [if_pos hc] at h
        exact List.forall_mem_cons.2 ⟨hc, ih h⟩
      · rw [if_neg hc] at h
        cases h

theorem readRadix?_eq_some_iff {s : List Char} {n : Nat} :
    readRadix? radix s = some n ↔ IsRadixDigits radix s ∧ radixValue radix s = n := by
  unfold readRadix?
  by_cases hne : s = []
  · rw [if_pos hne]
    exact iff_of_false (by simp) fun h => h.1.ne_nil hne
  · rw [if_neg hne]
    constructor
    · intro h
      have hlt := lt_of_foldlM_digitBelow? hradix h
      rw [foldlM_digitBelow? hradix hlt, ← radixValue_eq_foldl] at h
      exact ⟨⟨hne, hlt⟩, Option.some.inj h⟩
    · rintro ⟨hdigits, rfl⟩
      rw [foldlM_digitBelow? hradix hdigits.lt, radixValue_eq_foldl]

theorem not_isRadixDigits_plus (s : List Char) : ¬IsRadixDigits radix ('+' :: s) := by
  intro h
  have hplus : radixDigit '+' = 16 := by decide +kernel
  have hlt := h.lt '+' List.mem_cons_self
  have hle := le_sixteen_of_mem hradix
  omega

/-- The words of 64 bits that are read in a radix. -/
theorem isSome_readWord?_iff (s : List Char) :
    (readWord? radix s).isSome = true ↔
      ∃ digits, (s = digits ∨ s = '+' :: digits) ∧ IsRadixDigits radix digits ∧
        radixValue radix digits < 2 ^ 64 := by
  have hread (digits : List Char) :
      ((readRadix? radix digits).filter (· < 1 <<< 64)).isSome = true ↔
        IsRadixDigits radix digits ∧ radixValue radix digits < 2 ^ 64 := by
    rw [Nat.one_shiftLeft, Option.isSome_filter, Option.any_eq_true]
    constructor
    · rintro ⟨n, hn, hlt⟩
      obtain ⟨hdigits, rfl⟩ := (readRadix?_eq_some_iff hradix).1 hn
      exact ⟨hdigits, of_decide_eq_true hlt⟩
    · rintro ⟨hdigits, hlt⟩
      exact ⟨_, (readRadix?_eq_some_iff hradix).2 ⟨hdigits, rfl⟩, decide_eq_true hlt⟩
  unfold readWord?
  dsimp only
  split
  next rest =>
    rw [hread]
    constructor
    · exact fun h => ⟨rest, Or.inr rfl, h⟩
    · rintro ⟨digits, rfl | heq, hdigits, hlt⟩
      · exact absurd hdigits (not_isRadixDigits_plus hradix rest)
      · obtain rfl : rest = digits := (List.cons.inj heq).2
        exact ⟨hdigits, hlt⟩
  next hplus =>
    rw [hread]
    constructor
    · exact fun h => ⟨s, Or.inl rfl, h⟩
    · rintro ⟨digits, rfl | rfl, hdigits, hlt⟩
      · exact ⟨hdigits, hlt⟩
      · exact absurd rfl (hplus digits)

end

theorem radix?_eq_some_iff {s : List Char} {radix : Nat} {rest : List Char} :
    radix? s = some (radix, rest) ↔
      ∃ letter, (letter, radix) ∈ radixLetters ∧ s = '0' :: letter :: rest := by
  constructor
  · intro h
    fun_cases radix? s with
    | case1 letter more hx =>
        rw [radix?, if_pos hx] at h
        obtain ⟨rfl, rfl⟩ := Prod.mk.inj (Option.some.inj h)
        exact ⟨letter, by rcases hx with rfl | rfl <;> simp [radixLetters], rfl⟩
    | case2 letter more hx ho =>
        rw [radix?, if_neg hx, if_pos ho] at h
        obtain ⟨rfl, rfl⟩ := Prod.mk.inj (Option.some.inj h)
        exact ⟨letter, by rcases ho with rfl | rfl <;> simp [radixLetters], rfl⟩
    | case3 letter more hx ho hb =>
        rw [radix?, if_neg hx, if_neg ho, if_pos hb] at h
        obtain ⟨rfl, rfl⟩ := Prod.mk.inj (Option.some.inj h)
        exact ⟨letter, by rcases hb with rfl | rfl <;> simp [radixLetters], rfl⟩
    | case4 letter more hx ho hb =>
        rw [radix?, if_neg hx, if_neg ho, if_neg hb] at h
        cases h
    | case5 s hother =>
        rw [radix?.eq_2 s hother] at h
        cases h
  · rintro ⟨letter, hletter, rfl⟩
    simp only [radixLetters, List.mem_cons, List.not_mem_nil, or_false, Prod.mk.injEq] at hletter
    rcases hletter with ⟨rfl, rfl⟩ | ⟨rfl, rfl⟩ | ⟨rfl, rfl⟩ | ⟨rfl, rfl⟩ | ⟨rfl, rfl⟩ | ⟨rfl, rfl⟩ <;>
      rfl

/-! ## The texts that are read -/

theorem isDecimalChar_of_isDigit {c : Char} (h : c.isDigit = true) : isDecimalChar c = true := by
  simp [isDecimalChar, h]

theorem isDecimalChar_of_isSign {s : List Char} (h : IsSign s) :
    ∀ c ∈ s, isDecimalChar c = true := by
  cases h <;> simp [isDecimalChar]

/-- A decimal has no characters but digits, signs, a point and the letter of an exponent. -/
theorem isDecimalChar_of_isDecimal {s : List Char} (h : IsDecimal s) :
    ∀ c ∈ s, isDecimalChar c = true := by
  obtain ⟨hsign, hmantissa, hexponent⟩ := h
  refine List.forall_mem_append.2 ⟨isDecimalChar_of_isSign hsign, List.forall_mem_append.2 ⟨?_, ?_⟩⟩
  · cases hmantissa with
    | whole _ hwhole => exact fun c hc => isDecimalChar_of_isDigit (hwhole c hc)
    | point _ hwhole hfraction =>
        refine List.forall_mem_append.2 ⟨fun c hc => isDecimalChar_of_isDigit (hwhole c hc), ?_⟩
        exact List.forall_mem_cons.2
          ⟨by decide, fun c hc => isDecimalChar_of_isDigit (hfraction c hc)⟩
  · cases hexponent with
    | none => simp
    | some hletter hsign _ hdigits =>
        refine List.forall_mem_cons.2 ⟨by rcases hletter with rfl | rfl <;> decide, ?_⟩
        exact List.forall_mem_append.2 ⟨isDecimalChar_of_isSign hsign,
          fun c hc => isDecimalChar_of_isDigit (hdigits c hc)⟩

theorem not_isDecimal_radix {letter : Char} {radix : Nat} (h : (letter, radix) ∈ radixLetters)
    (rest : List Char) : ¬IsDecimal ('0' :: letter :: rest) := by
  intro hdecimal
  have hletter : ∀ entry ∈ radixLetters, isDecimalChar entry.1 = false := by decide
  have hchar := isDecimalChar_of_isDecimal hdecimal letter (by simp)
  rw [hletter _ h] at hchar
  cases hchar

theorem radix?_of_isDecimal {s : List Char} (h : IsDecimal s) : radix? s = none := by
  cases hradix : radix? s with
  | none => rfl
  | some found =>
      obtain ⟨letter, hletter, rfl⟩ := radix?_eq_some_iff.1 hradix
      exact absurd h (not_isDecimal_radix hletter found.2)

theorem ne_of_isDecimal {s t : List Char} (h : IsDecimal s) {c : Char} (hc : c ∈ t)
    (hchar : isDecimalChar c = false) : s ≠ t := by
  rintro rfl
  rw [isDecimalChar_of_isDecimal h c hc] at hchar
  cases hchar

/-- A decimal with blanks around it is read as the nearest number. -/
theorem readNumber?_of_isDecimal {text : String} (h : IsDecimal (Text.trim text.toList)) :
    readNumber? text = Decimal.readBinary64? (Text.trim text.toList) := by
  have hread := (Decimal.isSome_ofText?_iff _).2 h
  have hall : (Text.trim text.toList).all isDecimalChar = true :=
    List.all_eq_true.2 (isDecimalChar_of_isDecimal h)
  have hne : Text.trim text.toList ≠ [] := by
    intro hnil
    rw [hnil] at hread
    cases hread
  have hI : isDecimalChar 'I' = false := by decide
  have hplain := ne_of_isDecimal h (t := "Infinity".toList) (by simp) hI
  have hplus := ne_of_isDecimal h (t := "+Infinity".toList) (by simp) hI
  have hminus := ne_of_isDecimal h (t := "-Infinity".toList) (by simp) hI
  unfold readNumber?
  dsimp only
  rw [if_neg hne, if_neg (not_or.2 ⟨hplain, hplus⟩), if_neg hminus, radix?_of_isDecimal h]
  exact if_pos hall

theorem ne_infinity_of_zero {sign : List Char} (hsign : IsSign sign) (rest : List Char) :
    sign ++ "Infinity".toList ≠ '0' :: rest := by
  cases hsign <;> simp

section

variable {letter : Char} {radix : Nat} (h : (letter, radix) ∈ radixLetters) (rest : List Char)

include h

theorem eq_radix_of_mem {other : Nat} (hother : (letter, other) ∈ radixLetters) :
    other = radix := by
  have hunique : ∀ a ∈ radixLetters, ∀ b ∈ radixLetters, a.1 = b.1 → a.2 = b.2 := by decide
  exact hunique _ hother _ h rfl

/-- What announces a radix is a number of this radix and nothing else. -/
theorem isNumeral_radix_iff : IsNumeral ('0' :: letter :: rest) ↔ IsRadixDigits radix rest := by
  constructor
  · generalize hs : '0' :: letter :: rest = s
    intro hnumeral
    cases hnumeral with
    | empty => cases hs
    | infinity hsign => exact absurd hs.symm (ne_infinity_of_zero hsign _)
    | decimal hdecimal =>
        rw [← hs] at hdecimal
        exact absurd hdecimal (not_isDecimal_radix h rest)
    | radix hletter hdigits =>
        obtain ⟨-, hs⟩ := List.cons.inj hs
        obtain ⟨rfl, rfl⟩ := List.cons.inj hs
        obtain rfl := eq_radix_of_mem h hletter
        exact hdigits
  · exact .radix h

theorem isOverlong_radix_iff :
    IsOverlong ('0' :: letter :: rest) ↔
      IsRadixDigits radix rest ∧ 2 ^ 64 ≤ radixValue radix rest := by
  constructor
  · rintro ⟨hletter, hdigits, hvalue⟩
    obtain rfl := eq_radix_of_mem h hletter
    exact ⟨hdigits, hvalue⟩
  · exact fun hrest => .intro h hrest.1 hrest.2

theorem isPlusRadix_radix_iff :
    IsPlusRadix ('0' :: letter :: rest) ↔
      ∃ digits, rest = '+' :: digits ∧ IsRadixDigits radix digits ∧
        radixValue radix digits < 2 ^ 64 := by
  constructor
  · rintro ⟨hletter, hdigits, hvalue⟩
    obtain rfl := eq_radix_of_mem h hletter
    exact ⟨_, rfl, hdigits, hvalue⟩
  · rintro ⟨digits, rfl, hdigits, hvalue⟩
    exact .intro h hdigits hvalue

theorem isReadable_radix_iff :
    IsReadable ('0' :: letter :: rest) ↔ (readWord? radix rest).isSome = true := by
  have hradix : radix ∈ radixLetters.map Prod.snd := List.mem_map_of_mem (f := Prod.snd) h
  rw [isSome_readWord?_iff hradix, IsReadable, isNumeral_radix_iff h, isOverlong_radix_iff h,
    isPlusRadix_radix_iff h]
  constructor
  · rintro (⟨hdigits, hshort⟩ | ⟨digits, hrest, hdigits, hvalue⟩)
    · exact ⟨rest, Or.inl rfl, hdigits, by simpa [hdigits] using hshort⟩
    · exact ⟨digits, Or.inr hrest, hdigits, hvalue⟩
  · rintro ⟨digits, rfl | hrest, hdigits, hvalue⟩
    · exact Or.inl ⟨hdigits, fun hlong => by omega⟩
    · exact Or.inr ⟨digits, hrest, hdigits, hvalue⟩

/-- With a plus sign before its digits, what announces a radix is no number. -/
theorem not_isNumeral_plus : ¬IsNumeral ('0' :: letter :: '+' :: rest) := by
  rw [isNumeral_radix_iff h]
  exact not_isRadixDigits_plus (List.mem_map_of_mem (f := Prod.snd) h) rest

end

/-- What announces no radix is read exactly if it is a number. -/
theorem isReadable_iff_of_radix?_eq_none {s : List Char} (h : radix? s = none) :
    IsReadable s ↔
      s = [] ∨ (∃ sign, IsSign sign ∧ s = sign ++ "Infinity".toList) ∨ IsDecimal s := by
  have hradix {letter : Char} {radix : Nat} (hletter : (letter, radix) ∈ radixLetters)
      (rest : List Char) : s ≠ '0' :: letter :: rest := by
    intro hs
    rw [radix?_eq_some_iff.2 ⟨letter, hletter, hs⟩] at h
    cases h
  constructor
  · rintro (⟨hnumeral, -⟩ | hplus)
    · cases hnumeral with
      | empty => exact Or.inl rfl
      | infinity hsign => exact Or.inr (Or.inl ⟨_, hsign, rfl⟩)
      | decimal hdecimal => exact Or.inr (Or.inr hdecimal)
      | radix hletter _ => exact absurd rfl (hradix hletter _)
    · obtain ⟨hletter, -, -⟩ := hplus
      exact absurd rfl (hradix hletter _)
  · intro hs
    refine Or.inl ⟨?_, ?_⟩
    · rcases hs with rfl | ⟨sign, hsign, rfl⟩ | hdecimal
      · exact .empty
      · exact .infinity hsign
      · exact .decimal hdecimal
    · rintro ⟨hletter, -, -⟩
      exact absurd rfl (hradix hletter _)

theorem exists_isSign_infinity_iff (s : List Char) :
    (∃ sign, IsSign sign ∧ s = sign ++ "Infinity".toList) ↔
      s = "Infinity".toList ∨ s = "+Infinity".toList ∨ s = "-Infinity".toList := by
  constructor
  · rintro ⟨sign, hsign, rfl⟩
    cases hsign with
    | none => exact Or.inl rfl
    | plus => exact Or.inr (Or.inl rfl)
    | minus => exact Or.inr (Or.inr rfl)
  · rintro (rfl | rfl | rfl)
    · exact ⟨_, .none, rfl⟩
    · exact ⟨_, .plus, rfl⟩
    · exact ⟨_, .minus, rfl⟩

/-- The digits of a radix that is announced are read as a word of 64 bits. -/
theorem readNumber?_radix {text : String} {letter : Char} {radix : Nat} {rest : List Char}
    (h : (letter, radix) ∈ radixLetters) (htext : Text.trim text.toList = '0' :: letter :: rest) :
    readNumber? text = (readWord? radix rest).map fun n => .ofInt n := by
  have hplain : '0' :: letter :: rest ≠ "Infinity".toList := by simp
  have hplus : '0' :: letter :: rest ≠ "+Infinity".toList := by simp
  have hminus : '0' :: letter :: rest ≠ "-Infinity".toList := by simp
  unfold readNumber?
  dsimp only
  rw [htext, if_neg (List.cons_ne_nil _ _), if_neg (not_or.2 ⟨hplain, hplus⟩), if_neg hminus,
    radix?_eq_some_iff.2 ⟨letter, h, rfl⟩]
  dsimp only
  cases readWord? radix rest <;> rfl

theorem isSome_readDecimal_iff (s : List Char) :
    (if s.all isDecimalChar then Decimal.readBinary64? s else none).isSome = true ↔
      IsDecimal s := by
  rw [← Decimal.isSome_ofText?_iff, Decimal.readBinary64?]
  split
  next => rw [Option.isSome_map]
  next hall =>
    refine iff_of_false (by simp) fun hread => hall (List.all_eq_true.2 ?_)
    exact isDecimalChar_of_isDecimal ((Decimal.isSome_ofText?_iff s).1 hread)

/-- What announces no radix is read if it is empty, an infinity or a decimal. -/
theorem isNumeric_iff_of_radix?_eq_none {text : String}
    (h : radix? (Text.trim text.toList) = none) :
    isNumeric text = true ↔ Text.trim text.toList = [] ∨
      (∃ sign, IsSign sign ∧ Text.trim text.toList = sign ++ "Infinity".toList) ∨
      IsDecimal (Text.trim text.toList) := by
  unfold isNumeric readNumber?
  dsimp only
  rw [h]
  dsimp only
  generalize Text.trim text.toList = s
  rw [exists_isSign_infinity_iff, ← isSome_readDecimal_iff]
  split
  next hnil => exact iff_of_true rfl (Or.inl hnil)
  next hnil =>
    split
    next hinfinity => exact iff_of_true rfl (Or.inr (Or.inl (or_assoc.1 (Or.inl hinfinity))))
    next hinfinity =>
      split
      next hminus => exact iff_of_true rfl (Or.inr (Or.inl (Or.inr (Or.inr hminus))))
      next hminus =>
        have hother : ¬(s = "Infinity".toList ∨ s = "+Infinity".toList ∨
            s = "-Infinity".toList) := by
          rw [← or_assoc]
          exact not_or.2 ⟨hinfinity, hminus⟩
        rw [or_iff_right hnil, or_iff_right hother]

/-- The texts that are read as numbers, with the blanks around them taken off. -/
theorem isNumeric_iff (text : String) :
    isNumeric text = true ↔ IsReadable (Text.trim text.toList) := by
  cases hradix : radix? (Text.trim text.toList) with
  | some found =>
      obtain ⟨letter, hletter, htext⟩ := radix?_eq_some_iff.1 hradix
      rw [htext, isReadable_radix_iff hletter, isNumeric, readNumber?_radix hletter htext,
        Option.isSome_map]
  | none => rw [isNumeric_iff_of_radix?_eq_none hradix, isReadable_iff_of_radix?_eq_none hradix]

theorem isNumeral_of_isOverlong {s : List Char} (h : IsOverlong s) : IsNumeral s := by
  obtain ⟨hletter, hdigits, -⟩ := h
  exact .radix hletter hdigits

theorem not_isNumeral_of_isPlusRadix {s : List Char} (h : IsPlusRadix s) : ¬IsNumeral s := by
  obtain ⟨hletter, -, -⟩ := h
  exact not_isNumeral_plus hletter _

/-- Only the two kinds of numbers of a radix make a difference to what is read. -/
theorem isReadable_iff_isNumeral_iff (s : List Char) :
    (IsReadable s ↔ IsNumeral s) ↔ ¬IsOverlong s ∧ ¬IsPlusRadix s := by
  constructor
  · intro hagree
    have hplain : ¬IsPlusRadix s := fun hplus =>
      not_isNumeral_of_isPlusRadix hplus (hagree.1 (Or.inr hplus))
    refine ⟨fun hlong => ?_, hplain⟩
    rcases hagree.2 (isNumeral_of_isOverlong hlong) with ⟨-, hshort⟩ | hplus
    · exact hshort hlong
    · exact hplain hplus
  · rintro ⟨hshort, hplain⟩
    rw [IsReadable, or_iff_left hplain, and_iff_left hshort]

/-- Without a pattern, an input for numbers takes the texts that are read as numbers, and not the
empty one where a text is required. -/
theorem isValid_number_iff (text : String) (required : Bool) :
    InputText.isValid "NUMBER" text "" required = true ↔
      isNumeric text = true ∧ ¬(required = true ∧ text = "") := by
  have hpattern : InputText.isValid "NUMBER" text "" required =
      if text = "" then !required else isNumeric text := rfl
  rw [hpattern]
  split
  next hempty =>
    have hzero : isNumeric "" = true := rfl
    simp [hempty, hzero]
  next hempty => simp [hempty]

/-- **The texts of numbers.** A text is read as a number if it is one with the blanks around it
taken off, save for numbers of a radix: those of more than 64 bits are not read, and a plus sign
before their digits is. So an input for numbers without a pattern takes these texts, and not the
empty one where a text is required. -/
theorem isNumeric_iff_isNumeral (text : String) :
    (isNumeric text = true ↔ IsReadable (Text.trim text.toList)) ∧
      ((isNumeric text = true ↔ IsNumeral (Text.trim text.toList)) ↔
        ¬IsOverlong (Text.trim text.toList) ∧ ¬IsPlusRadix (Text.trim text.toList)) ∧
      ∀ required, InputText.isValid "NUMBER" text "" required = true ↔
        IsReadable (Text.trim text.toList) ∧ ¬(required = true ∧ text = "") := by
  refine ⟨isNumeric_iff text, ?_, fun required => ?_⟩
  · rw [isNumeric_iff]
    exact isReadable_iff_isNumeral_iff _
  · rw [isValid_number_iff, isNumeric_iff]

/-- A plus sign after the letter of a radix is read, and a number of 65 bits is not. -/
theorem isNumeric_ne_isNumeral :
    (isNumeric "0x+5" = true ∧ ¬IsNumeral "0x+5".toList) ∧
      isNumeric "0x10000000000000000" = false ∧ IsNumeral "0x10000000000000000".toList := by
  have hletter : ('x', 16) ∈ radixLetters := by decide
  have hdigits : "10000000000000000".toList.all (fun c => radixDigit c < 16) = true := by
    decide +kernel
  refine ⟨⟨by decide +kernel, not_isNumeral_plus hletter ['5']⟩, by decide +kernel, ?_⟩
  refine .radix hletter ⟨List.cons_ne_nil _ _, fun c hc => ?_⟩
  exact of_decide_eq_true (List.all_eq_true.1 hdigits c hc)

end Widgetry
