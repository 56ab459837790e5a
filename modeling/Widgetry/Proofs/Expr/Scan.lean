import Mathlib
import Widgetry.Expr.Token

/-!
# What a token depends on

A token is scanned from the front of a text and lies in it. It does not depend on what comes after
it: where a text is cut off behind its first token, the token is scanned as before, and so it is
where the text goes on with a character that stands in no name, number or mark.
-/

namespace Widgetry.Lexeme

/-! ## The kinds of tokens -/

/-- How many characters the sign at the beginning of a text has. -/
def signLength (s : List Char) : Nat :=
  if s.head?.any (fun c => c = '+' || c = '-') then 1 else 0

theorem exponentLength_cons (e : Char) (rest : List Char) :
    exponentLength (e :: rest) =
      if e = 'e' ∨ e = 'E' then
        if ((rest.drop (signLength rest)).takeWhile Char.isDigit).length = 0 then 0
        else 1 + signLength rest + ((rest.drop (signLength rest)).takeWhile Char.isDigit).length
      else 0 := by
  cases rest with
  | nil => simp [exponentLength, signLength]
  | cons c more =>
      by_cases hsign : c = '+' ∨ c = '-'
      · simp [exponentLength, signLength, hsign]
      · simp [exponentLength, signLength, hsign]

/-- Whether a number begins with `c` and the text after it. -/
def beginsNumber (c : Char) (s : List Char) : Bool :=
  c.isDigit || (c = '.' && s.head?.any Char.isDigit)

section

variable {c : Char} {s : List Char}

theorem scan_number (h : beginsNumber c s = true) :
    scan c s = match Decimal.readBinary64? ((c :: s).take (numberLength (c :: s))) with
      | some x => .ok (.number x, numberLength (c :: s) - 1)
      | none => .error (.invalidNumber ((c :: s).take (numberLength (c :: s)))) := by
  unfold scan
  exact if_pos h

theorem ne_backslash_of_quote (hquote : c = '"' ∨ c = '\'') : c ≠ '\\' := by
  rcases hquote with rfl | rfl <;> decide

theorem scan_quote (hquote : c = '"' ∨ c = '\'') (s : List Char) :
    scan c s = match readString? c [] 0 s with
      | some (text, n) => .ok (.string (String.ofList text), n)
      | none => .error .unterminatedString := by
  rcases hquote with rfl | rfl
  · rfl
  · rfl

theorem scan_word (h : beginsNumber c s = false) (hquote : ¬(c = '"' ∨ c = '\'')) :
    scan c s =
      if isNameStart c then
        .ok (.ident (String.ofList (c :: s.takeWhile isNameChar)), (s.takeWhile isNameChar).length)
      else match Mark.begin? (c :: s) with
        | some mark => .ok (.mark mark, mark.chars.length - 1)
        | none => .error (.unexpectedCharacter c) := by
  have hstring : ¬(decide (c = '"') || decide (c = '\'')) = true := by simpa using hquote
  have hnumber : ¬beginsNumber c s = true := by simp [h]
  unfold scan
  exact (if_neg hnumber).trans (if_neg hstring)

/-- The ways in which a token is scanned from a text that starts with `c`. -/
inductive Scanned (c : Char) (s : List Char) : Token → Nat → Prop where
  | number {x : Binary64} (hnumber : beginsNumber c s = true)
      (hread : Decimal.readBinary64? ((c :: s).take (numberLength (c :: s))) = some x) :
      Scanned c s (.number x) (numberLength (c :: s) - 1)
  | string {text : List Char} {n : Nat} (hquote : c = '"' ∨ c = '\'')
      (hread : readString? c [] 0 s = some (text, n)) :
      Scanned c s (.string (String.ofList text)) n
  | ident (hnumber : beginsNumber c s = false) (hquote : ¬(c = '"' ∨ c = '\''))
      (hname : isNameStart c = true) :
      Scanned c s (.ident (String.ofList (c :: s.takeWhile isNameChar)))
        (s.takeWhile isNameChar).length
  | mark {mark : Mark} (hnumber : beginsNumber c s = false) (hquote : ¬(c = '"' ∨ c = '\''))
      (hname : ¬isNameStart c = true) (hmark : Mark.begin? (c :: s) = some mark) :
      Scanned c s (.mark mark) (mark.chars.length - 1)

theorem scanned_of_scan {token : Token} {n : Nat} (h : scan c s = .ok (token, n)) :
    Scanned c s token n := by
  by_cases hquote : c = '"' ∨ c = '\''
  · rw [scan_quote hquote] at h
    split at h
    next text count hread =>
      obtain ⟨rfl, rfl⟩ := Prod.mk.inj (Except.ok.inj h)
      exact .string hquote hread
    next => cases h
  · cases hnumber : beginsNumber c s with
    | true =>
        rw [scan_number hnumber] at h
        split at h
        next x hread =>
          obtain ⟨rfl, rfl⟩ := Prod.mk.inj (Except.ok.inj h)
          exact .number hnumber hread
        next => cases h
    | false =>
        rw [scan_word hnumber hquote] at h
        split at h
        next hname =>
          obtain ⟨rfl, rfl⟩ := Prod.mk.inj (Except.ok.inj h)
          exact .ident hnumber hquote hname
        next hname =>
          split at h
          next mark hmark =>
            obtain ⟨rfl, rfl⟩ := Prod.mk.inj (Except.ok.inj h)
            exact .mark hnumber hquote hname hmark
          next => cases h

theorem Scanned.scan_eq {token : Token} {n : Nat} (h : Scanned c s token n) :
    scan c s = .ok (token, n) := by
  cases h with
  | number hnumber hread => rw [scan_number hnumber, hread]
  | string hquote hread => rw [scan_quote hquote, hread]
  | ident hnumber hquote hname => rw [scan_word hnumber hquote, if_pos hname]
  | mark hnumber hquote hname hmark => rw [scan_word hnumber hquote, if_neg hname, hmark]

end

/-! ## How long tokens are -/

theorem signLength_le (s : List Char) : signLength s ≤ s.length := by
  unfold signLength
  cases s with
  | nil => simp
  | cons c rest =>
      rw [List.length_cons]
      split <;> omega

theorem exponentLength_le (s : List Char) : exponentLength s ≤ s.length := by
  cases s with
  | nil => exact Nat.le_refl 0
  | cons e rest =>
      have hsign := signLength_le rest
      have htake (s : List Char) := (s.takeWhile_prefix Char.isDigit).length_le
      have hdigits := htake (rest.drop (signLength rest))
      rw [List.length_drop] at hdigits
      rw [exponentLength_cons, List.length_cons]
      split
      next =>
        split <;> omega
      next => omega

theorem numberLength_le (s : List Char) : numberLength s ≤ s.length := by
  have hexponent := exponentLength_le (s.dropWhile isNumeral)
  have hparts := congrArg List.length (List.takeWhile_append_dropWhile (p := isNumeral) (l := s))
  rw [List.length_append] at hparts
  rw [numberLength]
  omega

theorem prefix_of_begin? {s : List Char} {mark : Mark} (h : Mark.begin? s = some mark) :
    mark.chars <+: s := by
  have hfind : Mark.all.find? (fun mark => mark.chars.isPrefixOf s) = some mark := h
  have hprefix := List.find?_some hfind
  exact List.isPrefixOf_iff_prefix.1 hprefix

theorem readString?_cons {quote c : Char} (hescape : c ≠ '\\') (read : List Char) (count : Nat)
    (s : List Char) : readString? quote read count (c :: s) =
      if c = quote then some (read.reverse, count + 1)
      else readString? quote (c :: read) (count + 1) s := by
  rw [readString?]
  exact fun _ _ heq _ => hescape heq

/-- A string ends with its closing quote, which stands after the characters of the string. -/
theorem exists_quote_of_readString? {quote : Char} {read s : List Char} {count : Nat}
    {found : List Char × Nat} (h : readString? quote read count s = some found) :
    ∃ more < s.length, found.2 = count + more + 1 ∧ s[more]? = some quote := by
  fun_induction readString? quote read count s with
  | case1 => cases h
  | case2 read count c rest ih =>
      obtain ⟨more, hmore, hcount, hquote⟩ := ih h
      refine ⟨more + 2, ?_, by omega, hquote⟩
      simp only [List.length_cons]
      omega
  | case3 read count rest hrest =>
      obtain rfl := Option.some.inj h
      exact ⟨0, by simp, rfl, rfl⟩
  | case4 read count c rest hrest hquote ih =>
      obtain ⟨more, hmore, hcount, hquote⟩ := ih h
      refine ⟨more + 1, ?_, by omega, hquote⟩
      simp only [List.length_cons]
      omega

theorem lt_of_readString? {quote : Char} {read s : List Char} {count : Nat}
    {found : List Char × Nat} (h : readString? quote read count s = some found) :
    count < found.2 := by
  obtain ⟨more, -, hcount, -⟩ := exists_quote_of_readString? h
  omega

/-- A backslash escapes what comes next, and the string goes on after it. -/
theorem add_two_lt_of_readString? {quote : Char} (hne : '\\' ≠ quote) {read s : List Char}
    {count : Nat} {found : List Char × Nat}
    (h : readString? quote read count ('\\' :: s) = some found) : count + 2 < found.2 := by
  cases s with
  | nil =>
      rw [readString?, if_neg hne] at h
      · cases h
      · exact fun _ _ _ heq => by cases heq
  | cons d s =>
      rw [readString?] at h
      exact lt_of_readString? h

/-- A token that is scanned lies in the text. -/
theorem le_of_scan {c : Char} {s : List Char} {token : Token} {n : Nat}
    (h : scan c s = .ok (token, n)) : n ≤ s.length := by
  cases scanned_of_scan h with
  | number =>
      have hle := numberLength_le (c :: s)
      rw [List.length_cons] at hle
      omega
  | string _ hread =>
      obtain ⟨more, hmore, hcount, -⟩ := exists_quote_of_readString? hread
      dsimp only at hcount
      omega
  | ident => exact (s.takeWhile_prefix isNameChar).length_le
  | mark _ _ _ hmark =>
      have hle := (prefix_of_begin? hmark).length_le
      rw [List.length_cons] at hle
      omega

/-! ## Texts that are cut off behind a token -/

section Append

variable {a b : List Char}

theorem takeWhile_of_append {p : Char → Bool} (h : ((a ++ b).takeWhile p).length ≤ a.length) :
    (a ++ b).takeWhile p = a.takeWhile p := by
  rw [List.takeWhile_append] at h ⊢
  split
  next hall =>
    rw [if_pos hall, List.length_append] at h
    have hnil : b.takeWhile p = [] := List.length_eq_zero_iff.1 (by omega)
    have htake : a.takeWhile p = a := (a.takeWhile_prefix p).eq_of_length hall
    rw [hnil, List.append_nil, htake]
  next => rfl

theorem exponentLength_of_append (h : exponentLength (a ++ b) ≤ a.length) :
    exponentLength (a ++ b) = exponentLength a := by
  rcases a with _ | ⟨e, _ | ⟨c, more⟩⟩
  · exact Nat.le_zero.1 h
  · -- an exponent has more than one character
    rw [List.singleton_append, exponentLength_cons] at h ⊢
    rw [exponentLength_cons]
    split
    next he =>
      rw [if_pos he, List.length_singleton] at h
      split
      next => simp [signLength]
      next hne =>
        rw [if_neg hne] at h
        omega
    next => rfl
  · have hsign : signLength (c :: more ++ b) = signLength (c :: more) := rfl
    have hdrop : (c :: more ++ b).drop (signLength (c :: more)) =
        (c :: more).drop (signLength (c :: more)) ++ b :=
      List.drop_append_of_le_length (signLength_le _)
    rw [List.cons_append, exponentLength_cons, hsign, hdrop] at h ⊢
    rw [exponentLength_cons]
    split
    next he =>
      rw [if_pos he] at h
      have hdigits : (((c :: more).drop (signLength (c :: more)) ++ b).takeWhile
          Char.isDigit).length ≤ ((c :: more).drop (signLength (c :: more))).length := by
        split at h
        next hzero => omega
        next =>
          rw [List.length_drop]
          rw [List.length_cons] at h
          omega
      rw [takeWhile_of_append hdigits]
    next => rfl

theorem numberLength_of_append (h : numberLength (a ++ b) ≤ a.length) :
    numberLength (a ++ b) = numberLength a := by
  unfold numberLength at h ⊢
  have htake : (a ++ b).takeWhile isNumeral = a.takeWhile isNumeral :=
    takeWhile_of_append (by omega)
  have hsplit : a.takeWhile isNumeral ++ a.dropWhile isNumeral = a :=
    List.takeWhile_append_dropWhile
  have hdrop : (a ++ b).dropWhile isNumeral = a.dropWhile isNumeral ++ b := by
    refine (List.append_right_inj (a.takeWhile isNumeral)).1 ?_
    rw [← List.append_assoc, hsplit, ← htake, List.takeWhile_append_dropWhile]
  have hlength := congrArg List.length hsplit
  rw [List.length_append] at hlength
  rw [htake, hdrop] at h ⊢
  rw [exponentLength_of_append (by omega)]

/-- A string is read as before where the text is cut off behind it, and where the text goes on. -/
theorem readString?_eq_some_iff {quote : Char} (hbegin : quote ≠ '\\') {read : List Char}
    {count : Nat} {found : List Char × Nat} :
    readString? quote read count a = some found ↔
      readString? quote read count (a ++ b) = some found ∧ found.2 ≤ count + a.length := by
  fun_induction readString? quote read count a with
  | case1 read count =>
      refine iff_of_false (by simp) ?_
      rintro ⟨h, hle⟩
      have hlt := lt_of_readString? h
      rw [List.length_nil] at hle
      omega
  | case2 read count c a ih =>
      have hlength : count + ('\\' :: c :: a).length = count + 2 + a.length := by
        simp only [List.length_cons]
        omega
      rw [hlength, List.cons_append, List.cons_append, readString?]
      exact ih
  | case3 read count a hplain =>
      rw [List.cons_append, readString?_cons hbegin, if_pos rfl, List.length_cons]
      refine (and_iff_left_of_imp fun h => ?_).symm
      obtain rfl := Option.some.inj h
      dsimp only
      omega
  | case4 read count c a hplain hne ih =>
      by_cases hescape : c = '\\'
      · -- the text is cut off behind a backslash
        subst hescape
        have hnil : a = [] := by
          cases a with
          | nil => rfl
          | cons d a => exact (hplain d a rfl rfl).elim
        subst hnil
        refine iff_of_false (by simp [readString?]) ?_
        rintro ⟨h, hle⟩
        have hlt := add_two_lt_of_readString? hne h
        rw [List.length_singleton] at hle
        omega
      · have hlength : count + (c :: a).length = count + 1 + a.length := by
          rw [List.length_cons]
          omega
        rw [hlength, List.cons_append, readString?_cons hescape, if_neg hne]
        exact ih

theorem begin?_of_append {mark : Mark} (h : Mark.begin? (a ++ b) = some mark)
    (hle : mark.chars.length ≤ a.length) : Mark.begin? a = some mark := by
  have hprefix : mark.chars <+: a :=
    List.prefix_of_prefix_length_le (prefix_of_begin? h) (List.prefix_append a b) hle
  obtain ⟨-, before, after, hall, hbefore⟩ := List.find?_eq_some_iff_append.1 h
  refine List.find?_eq_some_iff_append.2
    ⟨List.isPrefixOf_iff_prefix.2 hprefix, before, after, hall, fun other hother => ?_⟩
  -- a mark that comes before would begin the longer text, too
  rw [Bool.not_eq_true', Bool.eq_false_iff, ne_eq, List.isPrefixOf_iff_prefix]
  intro hshort
  have hlong := hbefore other hother
  rw [Bool.not_eq_true', Bool.eq_false_iff, ne_eq, List.isPrefixOf_iff_prefix] at hlong
  exact hlong (hshort.trans (List.prefix_append a b))

theorem beginsNumber_of_append_eq_false {c : Char} (h : beginsNumber c (a ++ b) = false) :
    beginsNumber c a = false := by
  cases a with
  | nil =>
      obtain ⟨hdigit, -⟩ := Bool.or_eq_false_iff.1 h
      simp [beginsNumber, hdigit]
  | cons d a => exact h

/-- A number that begins with a dot has at least two characters. -/
theorem beginsNumber_of_append {c : Char} (h : beginsNumber c (a ++ b) = true)
    (hle : numberLength (c :: (a ++ b)) ≤ a.length + 1) : beginsNumber c a = true := by
  cases a with
  | cons d a => exact h
  | nil =>
      cases b with
      | nil => exact h
      | cons d b =>
          rcases Bool.or_eq_true_iff.1 h with hdigit | hdot
          · simp [beginsNumber, hdigit]
          · obtain ⟨rfl, hd⟩ : c = '.' ∧ d.isDigit = true := by simpa using hdot
            simp [numberLength, isNumeral, hd] at hle
            omega

/-- A token is scanned as before where the text is cut off behind it. -/
theorem scan_of_append {c : Char} {token : Token} {n : Nat} (h : scan c (a ++ b) = .ok (token, n))
    (hle : n ≤ a.length) : scan c a = .ok (token, n) := by
  refine Scanned.scan_eq ?_
  cases scanned_of_scan h with
  | number hnumber hread =>
      have hlength : numberLength (c :: (a ++ b)) = numberLength (c :: a) :=
        numberLength_of_append (a := c :: a) (by rw [List.length_cons, List.cons_append]; omega)
      have htake : (c :: (a ++ b)).take (numberLength (c :: a)) =
          (c :: a).take (numberLength (c :: a)) :=
        List.take_append_of_le_length (numberLength_le (c :: a))
      rw [hlength] at hle hread ⊢
      rw [htake] at hread
      exact .number (beginsNumber_of_append hnumber (by omega)) hread
  | string hquote hread =>
      have hbegin := ne_backslash_of_quote hquote
      exact .string hquote ((readString?_eq_some_iff hbegin).2 ⟨hread, by simpa using hle⟩)
  | ident hnumber hquote hname =>
      rw [takeWhile_of_append hle]
      exact .ident (beginsNumber_of_append_eq_false hnumber) hquote hname
  | mark hnumber hquote hname hmark =>
      refine .mark (beginsNumber_of_append_eq_false hnumber) hquote hname ?_
      exact begin?_of_append (a := c :: a) hmark (by rw [List.length_cons]; omega)

end Append

/-! ## Texts that go on after a token -/

/-- Whether a character stands in no name, number or mark. -/
structure IsForeign (x : Char) : Prop where
  not_isNameChar : isNameChar x = false
  not_mem_chars : ∀ mark : Mark, x ∉ mark.chars

section

variable {α : Type} {p : α → Bool} {x : α} (hx : p x = false) (s rest : List α)

include hx

theorem takeWhile_append_cons : (s ++ x :: rest).takeWhile p = s.takeWhile p := by
  induction s with
  | nil => simp [hx]
  | cons c s ih =>
      rw [List.cons_append, List.takeWhile_cons, List.takeWhile_cons, ih]

theorem dropWhile_append_cons :
    (s ++ x :: rest).dropWhile p = s.dropWhile p ++ x :: rest := by
  induction s with
  | nil => simp [hx]
  | cons c s ih =>
      rw [List.cons_append, List.dropWhile_cons, List.dropWhile_cons, ih]
      split
      next => rfl
      next => rfl

end

theorem isPrefixOf_append {x : Char} {needle : List Char} (hneedle : x ∉ needle)
    (s rest : List Char) : needle.isPrefixOf (s ++ x :: rest) = needle.isPrefixOf s := by
  induction needle generalizing s with
  | nil => simp
  | cons c needle ih =>
      rw [List.mem_cons, not_or] at hneedle
      obtain ⟨hc, hneedle⟩ := hneedle
      cases s with
      | nil => simp [List.isPrefixOf, Ne.symm hc]
      | cons d s => simp [List.isPrefixOf, ih hneedle s]

namespace IsForeign

variable {x : Char} (hx : IsForeign x)

include hx

theorem not_isDigit : x.isDigit = false := by
  have h := hx.not_isNameChar
  simp only [isNameChar, Char.isAlphanum, Bool.or_eq_false_iff] at h
  exact h.1.1.2

theorem not_isNumeral : isNumeral x = false := by
  have hdot : x ≠ '.' := fun h => hx.not_mem_chars .dot (by simp [h, Mark.chars])
  simp [isNumeral, hx.not_isDigit, hdot]

theorem ne_exponent : ¬(x = 'e' ∨ x = 'E') := by
  have h := hx.not_isNameChar
  rintro (rfl | rfl)
  · exact absurd h (by decide)
  · exact absurd h (by decide)

theorem signLength_append (s rest : List Char) : signLength (s ++ x :: rest) = signLength s := by
  cases s with
  | cons c s => rfl
  | nil =>
      have hplus : x ≠ '+' := fun h => hx.not_mem_chars .plus (by simp [h, Mark.chars])
      have hminus : x ≠ '-' := fun h => hx.not_mem_chars .minus (by simp [h, Mark.chars])
      simp [signLength, hplus, hminus]

theorem exponentLength_append (s rest : List Char) :
    exponentLength (s ++ x :: rest) = exponentLength s := by
  cases s with
  | nil => rw [List.nil_append, exponentLength_cons, if_neg hx.ne_exponent, exponentLength]
  | cons e s =>
      rw [List.cons_append, exponentLength_cons, exponentLength_cons, hx.signLength_append,
        List.drop_append_of_le_length (signLength_le s), takeWhile_append_cons hx.not_isDigit]

theorem numberLength_append (s rest : List Char) :
    numberLength (s ++ x :: rest) = numberLength s := by
  rw [numberLength, numberLength, takeWhile_append_cons hx.not_isNumeral,
    dropWhile_append_cons hx.not_isNumeral, hx.exponentLength_append]

theorem begin?_append (s rest : List Char) : Mark.begin? (s ++ x :: rest) = Mark.begin? s := by
  unfold Mark.begin?
  refine congrArg (Mark.all.find? ·) (funext fun mark => ?_)
  exact isPrefixOf_append (hx.not_mem_chars mark) s rest

/-- A token that is no string does not see what begins with a foreign character. -/
theorem scan_append_of_not_quote {c : Char} (hquote : ¬(c = '"' ∨ c = '\'')) (a rest : List Char) :
    scan c (a ++ x :: rest) = scan c a := by
  have hbegins : beginsNumber c (a ++ x :: rest) = beginsNumber c a := by
    cases a with
    | nil => simp [beginsNumber, hx.not_isDigit]
    | cons d a => rfl
  cases hnumber : beginsNumber c a with
  | true =>
      have hlength : numberLength (c :: (a ++ x :: rest)) = numberLength (c :: a) :=
        hx.numberLength_append (c :: a) rest
      have htake : (c :: (a ++ x :: rest)).take (numberLength (c :: a)) =
          (c :: a).take (numberLength (c :: a)) :=
        List.take_append_of_le_length (numberLength_le (c :: a))
      rw [scan_number hnumber, scan_number (hbegins.trans hnumber), hlength, htake]
  | false =>
      have hbegin : Mark.begin? (c :: (a ++ x :: rest)) = Mark.begin? (c :: a) :=
        hx.begin?_append (c :: a) rest
      rw [scan_word hnumber hquote, scan_word (hbegins.trans hnumber) hquote, hbegin,
        takeWhile_append_cons hx.not_isNameChar]

/-- A token is scanned as before where the text goes on with a foreign character. -/
theorem scan_append {c : Char} {a : List Char} {found : Token × Nat} (h : scan c a = .ok found)
    (rest : List Char) : scan c (a ++ x :: rest) = .ok found := by
  by_cases hquote : c = '"' ∨ c = '\''
  · rw [scan_quote hquote] at h ⊢
    split at h
    next text count hread =>
      rw [((readString?_eq_some_iff (ne_backslash_of_quote hquote)).1 hread).1]
      exact h
    next => cases h
  · rw [hx.scan_append_of_not_quote hquote, h]

end IsForeign

end Widgetry.Lexeme
