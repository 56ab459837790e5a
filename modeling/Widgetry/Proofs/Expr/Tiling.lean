import Widgetry.Proofs.Expr.Scan

/-!
# How lexemes lie in their text

A text that is cut into lexemes is blanks and lexemes, one after the other, where each lexeme is the
first token of what begins there. So each lexeme keeps the place in the text that its characters
were read from, no two of them share a character, and between them are blanks only.
-/

namespace Widgetry.Lexeme

/-! ## Places in bytes -/

theorem byteSize_append (a b : List Char) : byteSize (a ++ b) = byteSize a + byteSize b := by
  induction a with
  | nil => simp [byteSize]
  | cons c a ih =>
      rw [List.cons_append, byteSize, byteSize, ih]
      omega

theorem byteSize_pos {s : List Char} (h : s ≠ []) : 0 < byteSize s := by
  cases s with
  | nil => exact absurd rfl h
  | cons c s =>
      have hsize := c.utf8Size_pos
      rw [byteSize]
      omega

theorem byteSize_eq_utf8ByteSize (s : List Char) :
    byteSize s = (String.ofList s).utf8ByteSize := by
  induction s with
  | nil => rfl
  | cons c s ih =>
      rw [byteSize, ih, String.ofList_cons, String.utf8ByteSize_append,
        String.utf8ByteSize_singleton]

/-- A part of a text begins between two characters. -/
theorem isValid_of_toList_eq_append {source : String} {before after : List Char}
    (h : source.toList = before ++ after) :
    (⟨byteSize before⟩ : String.Pos.Raw).IsValid source := by
  refine String.Pos.Raw.isValid_iff_exists_append.2
    ⟨String.ofList before, String.ofList after, ?_, ?_⟩
  · rw [← String.ofList_append, ← h, String.ofList_toList]
  · rw [byteSize_eq_utf8ByteSize]
    rfl

/-! ## Cutting a text -/

/-- The lexemes that a text is cut into which begins at `offset`. -/
inductive Cut : Nat → List Char → List Lexeme → Prop where
  | nil (offset : Nat) : Cut offset [] []
  | blank {offset : Nat} {c : Char} {s : List Char} {lexemes : List Lexeme}
      (hblank : isBlank c = true) (hrest : Cut (offset + c.utf8Size) s lexemes) :
      Cut offset (c :: s) lexemes
  | lexeme {offset : Nat} {c : Char} {more s : List Char} {token : Token} {lexemes : List Lexeme}
      (hblank : isBlank c = false) (hscan : scan c (more ++ s) = .ok (token, more.length))
      (hrest : Cut (offset + byteSize (c :: more)) s lexemes) :
      Cut offset (c :: more ++ s) (⟨token, c :: more, offset⟩ :: lexemes)

theorem exists_cut_of_readAll {read : List Lexeme} {offset : Nat} {s : List Char}
    {lexemes : List Lexeme} (h : readAll read offset s = .ok lexemes) :
    ∃ found, lexemes = read.reverse ++ found ∧ Cut offset s found := by
  fun_induction readAll read offset s with
  | case1 read offset => exact ⟨[], by simpa using (Except.ok.inj h).symm, .nil offset⟩
  | case2 read offset c rest hblank ih =>
      obtain ⟨found, hlexemes, hcut⟩ := ih h
      exact ⟨found, hlexemes, .blank hblank hcut⟩
  | case3 read offset c rest hblank cause hscan => cases h
  | case4 read offset c rest hblank token n hscan text ih =>
      obtain ⟨found, hlexemes, hcut⟩ := ih h
      refine ⟨⟨token, text, offset⟩ :: found, by simpa using hlexemes, ?_⟩
      have hlength : (rest.take n).length = n := List.length_take_of_le (le_of_scan hscan)
      have hcut' : Cut offset (c :: rest.take n ++ rest.drop n)
          (⟨token, text, offset⟩ :: found) := by
        refine .lexeme (by simpa using hblank) ?_ hcut
        rw [List.take_append_drop, hlength]
        exact hscan
      rwa [List.cons_append, List.take_append_drop] at hcut'

theorem Cut.readAll_eq {offset : Nat} {s : List Char} {lexemes : List Lexeme}
    (h : Cut offset s lexemes) (read : List Lexeme) :
    readAll read offset s = .ok (read.reverse ++ lexemes) := by
  induction h generalizing read with
  | nil offset => simp [readAll]
  | blank hblank hrest ih => rw [readAll, if_pos hblank, ih]
  | lexeme hblank hscan hrest ih =>
      rw [List.cons_append, readAll, if_neg (by simp [hblank]), hscan]
      dsimp only
      rw [List.take_left, List.drop_left, ih]
      simp

/-- What no token begins with stands at the place of the error. -/
theorem exists_place_of_readAll {read : List Lexeme} {offset : Nat} {s : List Char} {e : ExprError}
    (h : readAll read offset s = .error e) :
    ∃ cause before after, s = before ++ after ∧
      e = .syntaxError cause (offset + byteSize before) := by
  fun_induction readAll read offset s with
  | case1 read offset => cases h
  | case2 read offset c rest hblank ih =>
      obtain ⟨cause, before, after, rfl, rfl⟩ := ih h
      exact ⟨cause, c :: before, after, rfl, by rw [byteSize, Nat.add_assoc]⟩
  | case3 read offset c rest hblank cause hscan =>
      exact ⟨cause, [], c :: rest, rfl, (Except.error.inj h).symm⟩
  | case4 read offset c rest hblank token n hscan text ih =>
      obtain ⟨cause, before, after, hrest, rfl⟩ := ih h
      refine ⟨cause, text ++ before, after, ?_, by rw [byteSize_append, Nat.add_assoc]⟩
      rw [List.append_assoc, ← hrest, List.cons_append, List.take_append_drop]

theorem ofText_eq_ok_iff {s : List Char} {lexemes : List Lexeme} :
    ofText s = .ok lexemes ↔ Cut 0 s lexemes := by
  constructor
  · intro h
    obtain ⟨found, rfl, hcut⟩ := exists_cut_of_readAll h
    exact hcut
  · exact fun h => h.readAll_eq []

/-! ## Lexemes in their places -/

/-- How the lexemes of a text lie in it, where the text begins at `start`. -/
structure Tiling (start : Nat) (s : List Char) (lexemes : List Lexeme) : Prop where
  /-- The characters of a lexeme stand at its place. -/
  place : ∀ lexeme ∈ lexemes, ∃ before after, s = before ++ (lexeme.text ++ after) ∧
    lexeme.offset = start + byteSize before
  nonempty : ∀ lexeme ∈ lexemes, lexeme.text ≠ []
  /-- A lexeme is what its characters are cut into without the text around them. -/
  alone : ∀ lexeme ∈ lexemes, ofText lexeme.text = .ok [{ lexeme with offset := 0 }]
  apart : lexemes.Pairwise fun a b => a.offset + byteSize a.text ≤ b.offset
  /-- A character that is in no lexeme is a blank. -/
  blank : ∀ before c after, s = before ++ c :: after → isBlank c = true ∨
    ∃ lexeme ∈ lexemes, lexeme.offset ≤ start + byteSize before ∧
      start + byteSize before < lexeme.offset + byteSize lexeme.text

namespace Tiling

variable {start : Nat} {s : List Char} {lexemes : List Lexeme}

theorem le_offset (h : Tiling start s lexemes) {lexeme : Lexeme} (hmem : lexeme ∈ lexemes) :
    start ≤ lexeme.offset := by
  obtain ⟨before, -, -, hoffset⟩ := h.place lexeme hmem
  omega

theorem offset_add_le (h : Tiling start s lexemes) {lexeme : Lexeme} (hmem : lexeme ∈ lexemes) :
    lexeme.offset + byteSize lexeme.text ≤ start + byteSize s := by
  obtain ⟨before, after, rfl, hoffset⟩ := h.place lexeme hmem
  rw [byteSize_append, byteSize_append]
  omega

theorem increasing (h : Tiling start s lexemes) :
    lexemes.Pairwise fun a b => a.offset < b.offset := by
  refine h.apart.imp_of_mem fun ha _ hle => ?_
  have hpos := byteSize_pos (h.nonempty _ ha)
  omega

theorem isValid {source : String} (h : Tiling 0 source.toList lexemes) {lexeme : Lexeme}
    (hmem : lexeme ∈ lexemes) :
    (⟨lexeme.offset⟩ : String.Pos.Raw).IsValid source ∧
      (⟨lexeme.offset + byteSize lexeme.text⟩ : String.Pos.Raw).IsValid source := by
  obtain ⟨before, after, hsource, hoffset⟩ := h.place lexeme hmem
  have hfinish : source.toList = (before ++ lexeme.text) ++ after := by
    rw [hsource, List.append_assoc]
  rw [hoffset, Nat.zero_add, ← byteSize_append]
  exact ⟨isValid_of_toList_eq_append hsource, isValid_of_toList_eq_append hfinish⟩

theorem nil (start : Nat) : Tiling start [] [] where
  place := by simp
  nonempty := by simp
  alone := by simp
  apart := .nil
  blank := by simp

theorem singleton_blank {c : Char} (hblank : isBlank c = true) (start : Nat) :
    Tiling start [c] [] where
  place := by simp
  nonempty := by simp
  alone := by simp
  apart := .nil
  blank := by
    intro before d after hs
    have hd : d ∈ [c] := hs ▸ List.mem_append_right before List.mem_cons_self
    obtain rfl := List.mem_singleton.1 hd
    exact Or.inl hblank

theorem singleton {token : Token} {text : List Char} (htext : text ≠ [])
    (hlexeme : ofText text = .ok [⟨token, text, 0⟩]) (start : Nat) :
    Tiling start text [⟨token, text, start⟩] where
  place := by
    intro lexeme hmem
    obtain rfl := List.mem_singleton.1 hmem
    exact ⟨[], [], by simp, rfl⟩
  nonempty := by simpa using htext
  alone := by simpa using hlexeme
  apart := List.pairwise_singleton _ _
  blank := by
    rintro before c after rfl
    refine Or.inr ⟨_, List.mem_singleton.2 rfl, Nat.le_add_right _ _, ?_⟩
    have hpos : 0 < byteSize (c :: after) := byteSize_pos (List.cons_ne_nil c after)
    rw [byteSize_append]
    dsimp only
    omega

/-- Texts that stand one after the other. -/
theorem append {front : List Char} {found : List Lexeme} (hfront : Tiling start front found)
    (hrest : Tiling (start + byteSize front) s lexemes) :
    Tiling start (front ++ s) (found ++ lexemes) where
  place := by
    intro lexeme hmem
    rcases List.mem_append.1 hmem with hmem | hmem
    · obtain ⟨before, after, rfl, hoffset⟩ := hfront.place lexeme hmem
      exact ⟨before, after ++ s, by simp, hoffset⟩
    · obtain ⟨before, after, rfl, hoffset⟩ := hrest.place lexeme hmem
      refine ⟨front ++ before, after, by simp, ?_⟩
      rw [hoffset, byteSize_append, Nat.add_assoc]
  nonempty := List.forall_mem_append.2 ⟨hfront.nonempty, hrest.nonempty⟩
  alone := List.forall_mem_append.2 ⟨hfront.alone, hrest.alone⟩
  apart := List.pairwise_append.2 ⟨hfront.apart, hrest.apart, fun _ ha _ hb =>
    Nat.le_trans (hfront.offset_add_le ha) (hrest.le_offset hb)⟩
  blank := by
    intro before c after hs
    -- the character stands in the text that goes on, or in the one in front of it
    have hlater (middle : List Char) (hmiddle : s = middle ++ c :: after)
        (hbefore : before = front ++ middle) : isBlank c = true ∨
          ∃ lexeme ∈ found ++ lexemes, lexeme.offset ≤ start + byteSize before ∧
            start + byteSize before < lexeme.offset + byteSize lexeme.text := by
      rcases hrest.blank middle c after hmiddle with hblank | ⟨lexeme, hmem, hplace⟩
      · exact Or.inl hblank
      · rw [Nat.add_assoc, ← byteSize_append, ← hbefore] at hplace
        exact Or.inr ⟨lexeme, List.mem_append_right found hmem, hplace⟩
    rcases List.append_eq_append_iff.1 hs with ⟨middle, hbefore, hmiddle⟩ | ⟨middle, rfl, hmiddle⟩
    · exact hlater middle hmiddle hbefore
    · cases middle with
      | nil => exact hlater [] hmiddle.symm (by simp)
      | cons d middle =>
          obtain ⟨rfl, -⟩ := List.cons.inj hmiddle
          rcases hfront.blank before c middle rfl with hblank | ⟨lexeme, hmem, hplace⟩
          · exact Or.inl hblank
          · exact Or.inr ⟨lexeme, List.mem_append_left lexemes hmem, hplace⟩

end Tiling

/-- A text is tiled by the lexemes that it is cut into. -/
theorem Cut.tiling {offset : Nat} {s : List Char} {lexemes : List Lexeme}
    (h : Cut offset s lexemes) : Tiling offset s lexemes := by
  induction h with
  | nil offset => exact .nil offset
  | @blank offset c s lexemes hblank hrest ih =>
      have hone : Tiling offset [c] [] := .singleton_blank hblank offset
      exact hone.append ih
  | @lexeme offset c more s token lexemes hblank hscan hrest ih =>
      have hcut : Cut 0 (c :: more ++ []) [⟨token, c :: more, 0⟩] := by
        refine .lexeme hblank ?_ (.nil _)
        rw [List.append_nil]
        exact scan_of_append hscan (Nat.le_refl _)
      rw [List.append_nil] at hcut
      exact (Tiling.singleton (List.cons_ne_nil c more) (ofText_eq_ok_iff.2 hcut) offset).append ih

end Widgetry.Lexeme
