import Widgetry.Proofs.Expr.Reading

/-!
# Access to a member by its name

Two names with a dot between them are three tokens. Unless the first one is that of a constant, they
are read as the access to a member of what the first name stands for.
-/

namespace Widgetry

namespace Lexeme

/-- Whether a text is a name. -/
def isName : List Char → Bool
  | [] => false
  | c :: rest => isNameStart c && rest.all isNameChar

theorem exists_cons_of_isName {s : List Char} (h : isName s = true) :
    ∃ c cs, s = c :: cs ∧ isNameStart c = true ∧ ∀ d ∈ cs, isNameChar d = true := by
  cases s with
  | nil => cases h
  | cons c cs =>
      rw [isName, Bool.and_eq_true, List.all_eq_true] at h
      exact ⟨c, cs, rfl, h.1, h.2⟩

theorem isDigit_of_isNameStart {c : Char} (h : isNameStart c = true) : c.isDigit = false := by
  simp only [isNameStart, Char.isAlpha, Char.isUpper, Char.isLower, Bool.or_eq_true,
    decide_eq_true_eq, Bool.and_eq_true] at h
  rcases h with (h | rfl) | rfl
  · simp only [Char.isDigit, Bool.and_eq_false_iff, decide_eq_false_iff_not]
    grind
  · rfl
  · rfl

theorem ne_of_isNameStart {c d : Char} (hc : isNameStart c = true) (hd : isNameStart d = false) :
    c ≠ d := by
  rintro rfl
  rw [hc] at hd
  cases hd

theorem scan_name {c : Char} (hc : isNameStart c = true) {cs : List Char}
    (hcs : ∀ d ∈ cs, isNameChar d = true) {rest : List Char}
    (hrest : rest.head?.any isNameChar = false) :
    scan c (cs ++ rest) = .ok (.ident (String.ofList (c :: cs)), cs.length) := by
  have htake : (cs ++ rest).takeWhile isNameChar = cs := by
    rw [List.takeWhile_append_of_pos hcs]
    cases rest with
    | nil => simp
    | cons d rest =>
        have hd : isNameChar d = false := hrest
        simp [hd]
  have hdot : c ≠ '.' := ne_of_isNameStart hc (by decide)
  have hquote : c ≠ '"' := ne_of_isNameStart hc (by decide)
  have happos : c ≠ '\'' := ne_of_isNameStart hc (by decide)
  simp [scan, isDigit_of_isNameStart hc, hdot, hquote, happos, hc, htake]

theorem isBlank_of_isNameStart {c : Char} (h : isNameStart c = true) : isBlank c = false := by
  have hspace : c ≠ ' ' := ne_of_isNameStart h (by decide)
  have htab : c ≠ '\t' := ne_of_isNameStart h (by decide)
  have hline : c ≠ '\n' := ne_of_isNameStart h (by decide)
  have hfeed : c ≠ '\x0c' := ne_of_isNameStart h (by decide)
  have hreturn : c ≠ '\r' := ne_of_isNameStart h (by decide)
  simp [isBlank, hspace, htab, hline, hfeed, hreturn]

theorem readAll_name {name : List Char} (h : isName name = true) (rest : List Char)
    (hrest : rest.head?.any isNameChar = false) (read : List Lexeme) (offset : Nat) :
    ∃ offset', readAll read offset (name ++ rest) =
      readAll (⟨.ident (String.ofList name), name, offset⟩ :: read) offset' rest := by
  obtain ⟨c, cs, rfl, hc, hcs⟩ := exists_cons_of_isName h
  rw [List.cons_append, readAll, if_neg (by simp [isBlank_of_isNameStart hc]),
    scan_name hc hcs hrest]
  dsimp only
  rw [List.take_left, List.drop_left]
  exact ⟨_, rfl⟩

/-- Two names with a dot between them are three tokens. -/
theorem ofText_access {name key : List Char} (hname : isName name = true)
    (hkey : isName key = true) :
    ∃ lexemes, ofText (name ++ '.' :: key) = .ok lexemes ∧
      lexemes.map Lexeme.token =
        [.ident (String.ofList name), .mark .dot, .ident (String.ofList key)] := by
  have hdot : scan '.' key = .ok (.mark .dot, 0) := by
    obtain ⟨d, ds, rfl, hd, -⟩ := exists_cons_of_isName hkey
    simp [scan, isDigit_of_isNameStart hd, isNameStart, Mark.begin?, Mark.all, Mark.chars,
      List.isPrefixOf]
  obtain ⟨offset, hfirst⟩ := readAll_name hname ('.' :: key) rfl [] 0
  obtain ⟨offset', hsecond⟩ := readAll_name hkey [] rfl
    [⟨.mark .dot, ['.'], offset⟩, ⟨.ident (String.ofList name), name, 0⟩]
    (offset + byteSize ['.'])
  rw [List.append_nil] at hsecond
  refine ⟨[⟨.ident (String.ofList name), name, 0⟩, ⟨.mark .dot, ['.'], offset⟩,
    ⟨.ident (String.ofList key), key, offset + byteSize ['.']⟩], ?_, rfl⟩
  rw [ofText, hfirst, readAll, if_neg (by decide), hdot]
  dsimp only
  rw [List.take_zero, List.drop_zero, hsecond, readAll]
  rfl

end Lexeme

namespace Expr

/-- The names that do not stand for a widget. -/
def reservedNames : List String :=
  ["this", "true", "false", "null", "undefined"]

theorem ofName_of_not_mem {name : String} (h : name ∉ reservedNames) :
    ofName name = .ident name := by
  unfold ofName
  split <;> simp [reservedNames] at h ⊢

/-- Two names with a dot between them are the access to a member of what the first stands for. -/
theorem ofChars_access {name key : String} (hname : Lexeme.isName name.toList = true)
    (hkey : Lexeme.isName key.toList = true) (hreserved : name ∉ reservedNames) :
    ofChars (name.toList ++ '.' :: key.toList) = .ok (.member (.ident name) key) := by
  obtain ⟨lexemes, htext, htokens⟩ := Lexeme.ofText_access hname hkey
  obtain ⟨d, hneed⟩ :=
    Derivation.exists_of_linked (.member (.unlinked (.name name)) key) operatorLevels
  rw [String.ofList_toList, String.ofList_toList] at htokens
  rw [← ofName_of_not_mem hreserved, ofChars_eq_ok_iff htext, htokens]
  refine ⟨.operand d, ?_⟩
  rw [Derivation.need, hneed]
  simp [Derivation.need, Derivation.links, maxDepth]

end Expr

end Widgetry
