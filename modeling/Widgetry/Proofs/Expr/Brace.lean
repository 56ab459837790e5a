import Widgetry.Proofs.Expr.Scan

/-!
# Braces in expressions

No token but a string has a brace in it. So where a text that is cut into lexemes is broken off at a
brace, what is left is cut into the same lexemes as far as they go, and then breaks off inside of a
string: it is an unterminated string.
-/

namespace Widgetry.Lexeme

/-- Whether a character is a brace. -/
def IsBrace (x : Char) : Prop :=
  x = '\x7b' ∨ x = '\x7d'

theorem IsBrace.isForeign {x : Char} (hx : IsBrace x) : IsForeign x where
  not_isNameChar := by rcases hx with rfl | rfl <;> decide
  not_mem_chars := by rcases hx with rfl | rfl <;> rintro ⟨⟩ <;> decide

/-- The lexemes that have been read stay among those of the whole text. -/
theorem mem_of_readAll {read : List Lexeme} {offset : Nat} {s : List Char} {lexemes : List Lexeme}
    (h : readAll read offset s = .ok lexemes) {lexeme : Lexeme} (hmem : lexeme ∈ read) :
    lexeme ∈ lexemes := by
  fun_induction readAll read offset s with
  | case1 read offset =>
      rw [← Except.ok.inj h]
      exact List.mem_reverse.2 hmem
  | case2 read offset c rest hblank ih => exact ih h hmem
  | case3 read offset c rest hblank cause hscan => cases h
  | case4 read offset c rest hblank token n hscan text ih =>
      exact ih h (List.mem_cons_of_mem _ hmem)

/-- A string that has been read either ends before a character that is no quote, or goes on after
it; then what is left before that character is an unterminated string. -/
theorem readString?_append {quote x : Char} (hquote : x ≠ quote) (hbegin : quote ≠ '\\')
    {read a rest : List Char} {count : Nat} {found : List Char × Nat}
    (h : readString? quote read count (a ++ x :: rest) = some found) :
    (readString? quote read count a = some found ∧ found.2 ≤ count + a.length) ∨
      (readString? quote read count a = none ∧
        ∃ more < rest.length, found.2 = count + a.length + more + 2) := by
  obtain ⟨more, hmore, hcount, hend⟩ := exists_quote_of_readString? h
  rw [List.length_append, List.length_cons] at hmore
  rcases Nat.lt_trichotomy more a.length with hlt | rfl | hgt
  · have hle : found.2 ≤ count + a.length := by omega
    exact Or.inl ⟨(readString?_eq_some_iff hbegin).2 ⟨h, hle⟩, hle⟩
  · rw [List.getElem?_append_right (Nat.le_refl _), Nat.sub_self] at hend
    exact absurd (Option.some.inj hend) hquote
  · refine Or.inr ⟨?_, more - (a.length + 1), by omega, by omega⟩
    cases hread : readString? quote read count a with
    | none => rfl
    | some found' =>
        -- a string that ends before the character ends there in the whole text, too
        obtain ⟨hwhole, hle⟩ := (readString?_eq_some_iff (b := x :: rest) hbegin).1 hread
        obtain rfl := Option.some.inj (h.symm.trans hwhole)
        omega

section Brace

variable {x : Char} (hx : IsBrace x)

include hx

/-- A token that is scanned either ends before a brace, or is a string that goes on after it; then
what is left before the brace is an unterminated string. -/
theorem scan_append {c : Char} {a rest : List Char} {token : Token} {n : Nat}
    (h : scan c (a ++ x :: rest) = .ok (token, n)) :
    (scan c a = .ok (token, n) ∧ n ≤ a.length) ∨
      (scan c a = .error .unterminatedString ∧ (∃ s, token = .string s) ∧
        ∃ more < rest.length, n = a.length + more + 2) := by
  by_cases hquote : c = '"' ∨ c = '\''
  · have hne : x ≠ c := by rcases hx with rfl | rfl <;> rcases hquote with rfl | rfl <;> decide
    have hbegin := ne_backslash_of_quote hquote
    rw [scan_quote hquote] at h ⊢
    split at h
    next text count hread =>
      obtain ⟨rfl, rfl⟩ := Prod.mk.inj (Except.ok.inj h)
      rcases readString?_append hne hbegin hread with ⟨hend, hcount⟩ | ⟨hend, hcount⟩
      · rw [hend]
        exact Or.inl ⟨rfl, by simpa using hcount⟩
      · rw [hend]
        exact Or.inr ⟨rfl, ⟨_, rfl⟩, by simpa using hcount⟩
    next => cases h
  · rw [hx.isForeign.scan_append_of_not_quote hquote] at h
    exact Or.inl ⟨h, le_of_scan h⟩

/-- No token begins with a brace. -/
theorem scan_brace (rest : List Char) : scan x rest = .error (.unexpectedCharacter x) := by
  rcases hx with rfl | rfl <;>
    simp [scan, isNameStart, Mark.begin?, Mark.all, Mark.chars, List.isPrefixOf]

/-- Where a text is broken off at a brace, its lexemes break off at the string that has the brace in
it. -/
theorem readAll_append {read : List Lexeme} {offset : Nat} {a rest : List Char}
    {lexemes : List Lexeme} (h : readAll read offset (a ++ x :: rest) = .ok lexemes) :
    ∃ lexeme ∈ lexemes, (∃ s, lexeme.token = .string s) ∧
      readAll read offset a = .error (.syntaxError .unterminatedString lexeme.offset) ∧
      ∃ start, ∃ more < rest.length, lexeme.text = start ++ x :: rest.take (more + 1) := by
  fun_induction readAll read offset a with
  | case1 read offset =>
      have hblank : ¬isBlank x = true := by rcases hx with rfl | rfl <;> decide
      rw [List.nil_append, readAll, if_neg hblank, scan_brace hx] at h
      cases h
  | case2 read offset c a hblank ih =>
      rw [List.cons_append, readAll, if_pos hblank] at h
      exact ih h
  | case3 read offset c a hblank cause hscan =>
      rw [List.cons_append, readAll, if_neg hblank] at h
      split at h
      next => cases h
      next token n hfound =>
        rcases scan_append hx hfound with ⟨hend, -⟩ | ⟨hend, hstring, more, hmore, hn⟩
        · rw [hscan] at hend
          cases hend
        · obtain rfl : cause = .unterminatedString := Except.error.inj (hscan.symm.trans hend)
          refine ⟨_, mem_of_readAll h List.mem_cons_self, hstring, rfl, c :: a, more, hmore, ?_⟩
          dsimp only
          rw [hn, Nat.add_assoc, List.take_length_add_append, List.take_succ_cons, List.cons_append]
  | case4 read offset c a hblank token n hscan text ih =>
      rw [List.cons_append, readAll, if_neg hblank] at h
      split at h
      next => cases h
      next token' n' hfound =>
        rcases scan_append hx hfound with ⟨hend, hn⟩ | ⟨hend, -⟩
        · rw [hscan] at hend
          obtain ⟨rfl, rfl⟩ := Prod.mk.inj (Except.ok.inj hend)
          dsimp only at h
          rw [List.take_append_of_le_length hn, List.drop_append_of_le_length hn] at h
          exact ih h
        · rw [hscan] at hend
          cases hend

end Brace

end Widgetry.Lexeme
