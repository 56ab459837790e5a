import Widgetry.Proofs.Expr.Reading
import Widgetry.Proofs.Expr.Tiling

/-!
# Blanks between lexemes

A text comes apart at the beginning and the end of each lexeme: both parts are cut into the lexemes
that they have in the whole. They can be put together again with blanks in between, since a blank
stands in no name, number or mark, so that no token before it goes on after it.
-/

namespace Widgetry.Lexeme

/-- A lexeme whose text begins later, by some bytes. -/
def shift (n : Nat) (lexeme : Lexeme) : Lexeme :=
  { lexeme with offset := lexeme.offset + n }

@[simp] theorem shift_token (n : Nat) (lexeme : Lexeme) : (shift n lexeme).token = lexeme.token :=
  rfl

@[simp] theorem shift_text (n : Nat) (lexeme : Lexeme) : (shift n lexeme).text = lexeme.text :=
  rfl

theorem isForeign_of_isBlank {c : Char} (h : isBlank c = true) : IsForeign c := by
  have hblank : c = ' ' ∨ c = '\t' ∨ c = '\n' ∨ c = '\x0c' ∨ c = '\r' := by
    simpa [isBlank, or_assoc] using h
  constructor
  · rcases hblank with rfl | rfl | rfl | rfl | rfl <;> decide
  · rcases hblank with rfl | rfl | rfl | rfl | rfl <;> rintro ⟨⟩ <;> decide

theorem exists_append_of_byteSize_le {a b before after : List Char}
    (h : a ++ b = before ++ after) (hle : byteSize a ≤ byteSize before) :
    ∃ middle, before = a ++ middle ∧ b = middle ++ after := by
  rcases List.append_eq_append_iff.1 h with hmiddle | ⟨middle, rfl, rfl⟩
  · exact hmiddle
  · rw [byteSize_append] at hle
    have hnil : middle = [] := by
      by_contra hne
      have hpos := byteSize_pos hne
      omega
    subst hnil
    exact ⟨[], by simp, rfl⟩

namespace Cut

variable {offset : Nat} {before after s : List Char} {lexemes : List Lexeme}

/-- A text that begins later. -/
theorem shift (h : Cut offset s lexemes) (n : Nat) :
    Cut (offset + n) s (lexemes.map (Lexeme.shift n)) := by
  induction h with
  | nil offset => exact .nil _
  | blank hblank hrest ih =>
      rw [Nat.add_right_comm] at ih
      exact .blank hblank ih
  | lexeme hblank hscan hrest ih =>
      rw [Nat.add_right_comm] at ih
      exact .lexeme hblank hscan ih

theorem blanks {w : List Char} (hw : ∀ c ∈ w, isBlank c = true)
    (h : Cut (offset + byteSize w) s lexemes) : Cut offset (w ++ s) lexemes := by
  induction w generalizing offset with
  | nil => exact h
  | cons c w ih =>
      rw [byteSize, ← Nat.add_assoc] at h
      exact .blank (hw c List.mem_cons_self) (ih (fun d hd => hw d (List.mem_cons_of_mem c hd)) h)

/-- A text that goes on with a foreign character. -/
theorem append {front back : List Lexeme} {x : Char} {rest : List Char} (hx : IsForeign x)
    (hfront : Cut offset before front)
    (hback : Cut (offset + byteSize before) (x :: rest) back) :
    Cut offset (before ++ x :: rest) (front ++ back) := by
  induction hfront with
  | nil offset => exact hback
  | @blank offset c s lexemes hblank hrest ih =>
      rw [byteSize, ← Nat.add_assoc] at hback
      exact .blank hblank (ih hback)
  | @lexeme offset c more s token lexemes hblank hscan hrest ih =>
      rw [byteSize_append, ← Nat.add_assoc] at hback
      rw [List.append_assoc, List.cons_append]
      refine .lexeme hblank ?_ (ih hback)
      rw [← List.append_assoc]
      exact hx.scan_append hscan rest

end Cut

/-- Whether a text that begins at `offset` can be taken apart after `before`: nothing is taken off,
or what is taken off ends where a lexeme begins or ends. -/
def IsSeam (offset : Nat) (before : List Char) (lexemes : List Lexeme) : Prop :=
  before = [] ∨ ∃ lexeme ∈ lexemes, offset + byteSize before = lexeme.offset ∨
    offset + byteSize before = lexeme.offset + byteSize lexeme.text

/-- What is taken off ends with the first lexeme or in the text after it. -/
theorem IsSeam.exists_append {offset : Nat} {token : Token} {text s before after : List Char}
    {lexemes : List Lexeme} (h : IsSeam offset before (⟨token, text, offset⟩ :: lexemes))
    (hne : before ≠ []) (hrest : Cut (offset + byteSize text) s lexemes)
    (hs : text ++ s = before ++ after) :
    ∃ middle, before = text ++ middle ∧ s = middle ++ after ∧
      IsSeam (offset + byteSize text) middle lexemes := by
  have hpos := byteSize_pos hne
  obtain ⟨lexeme, hmem, hplace⟩ := h.resolve_left hne
  rcases List.mem_cons.1 hmem with rfl | hmem
  · have htext : byteSize text = byteSize before := by
      dsimp only at hplace
      omega
    obtain ⟨middle, rfl, rfl⟩ := exists_append_of_byteSize_le hs htext.le
    refine ⟨middle, rfl, rfl, Or.inl (by_contra fun hmiddle => ?_)⟩
    have hmore := byteSize_pos hmiddle
    rw [byteSize_append] at htext
    omega
  · have hoffset := hrest.tiling.le_offset hmem
    obtain ⟨middle, rfl, rfl⟩ := exists_append_of_byteSize_le hs (by omega)
    rw [byteSize_append, ← Nat.add_assoc] at hplace
    exact ⟨middle, rfl, rfl, Or.inr ⟨lexeme, hmem, hplace⟩⟩

/-- A text is taken apart where a lexeme begins or ends. -/
theorem Cut.exists_append {offset : Nat} {s before after : List Char} {lexemes : List Lexeme}
    (h : Cut offset s lexemes) (hs : s = before ++ after)
    (hseam : IsSeam offset before lexemes) :
    ∃ front back, lexemes = front ++ back ∧ Cut offset before front ∧
      Cut (offset + byteSize before) after back := by
  induction h generalizing before with
  | nil offset =>
      obtain ⟨rfl, rfl⟩ := List.append_eq_nil_iff.1 hs.symm
      exact ⟨[], [], rfl, .nil _, .nil _⟩
  | @blank offset c s lexemes hblank hrest ih =>
      cases before with
      | nil =>
          subst hs
          exact ⟨[], lexemes, rfl, .nil _, .blank hblank hrest⟩
      | cons d before =>
          obtain ⟨rfl, htail⟩ := List.cons.inj hs
          have hplace := hseam.resolve_left (List.cons_ne_nil _ _)
          rw [byteSize, ← Nat.add_assoc] at hplace ⊢
          obtain ⟨front, back, hlexemes, hfront, hback⟩ := ih htail (Or.inr hplace)
          exact ⟨front, back, hlexemes, .blank hblank hfront, hback⟩
  | @lexeme offset c more s token lexemes hblank hscan hrest ih =>
      by_cases hne : before = []
      · subst hne hs
        exact ⟨[], _, rfl, .nil _, .lexeme hblank hscan hrest⟩
      · obtain ⟨middle, rfl, rfl, hmiddle⟩ := hseam.exists_append hne hrest hs
        obtain ⟨front, back, rfl, hfront, hback⟩ := ih rfl hmiddle
        rw [byteSize_append, ← Nat.add_assoc]
        refine ⟨⟨token, c :: more, offset⟩ :: front, back, rfl, .lexeme hblank ?_ hfront, hback⟩
        rw [← List.append_assoc] at hscan
        exact scan_of_append hscan (by simp)

/-- Blanks where a text begins or ends, or one of its lexemes does: the lexemes after them begin
later, and nothing else changes. -/
theorem ofText_append_blanks {before after w : List Char} {lexemes : List Lexeme}
    (h : ofText (before ++ after) = .ok lexemes)
    (hseam : after = [] ∨ IsSeam 0 before lexemes) (hw : ∀ c ∈ w, isBlank c = true) :
    ∃ front back, lexemes = front ++ back ∧
      ofText (before ++ (w ++ after)) = .ok (front ++ back.map (shift (byteSize w))) := by
  have hcut := ofText_eq_ok_iff.1 h
  obtain ⟨front, back, rfl, hfront, hback⟩ : ∃ front back, lexemes = front ++ back ∧
      Cut 0 before front ∧ Cut (0 + byteSize before) after back := by
    rcases hseam with rfl | hseam
    · rw [List.append_nil] at hcut
      exact ⟨lexemes, [], (List.append_nil _).symm, hcut, .nil _⟩
    · exact hcut.exists_append rfl hseam
  refine ⟨front, back, rfl, ?_⟩
  cases w with
  | nil =>
      have hback : back.map (shift (byteSize [])) = back := List.map_id back
      rw [hback]
      exact h
  | cons x w =>
      have hx := isForeign_of_isBlank (hw x List.mem_cons_self)
      exact ofText_eq_ok_iff.2 (hfront.append hx (.blanks hw (hback.shift _)))

end Widgetry.Lexeme

namespace Widgetry.Expr

/-- **Blanks between lexemes mean nothing.** Where blanks are put at an end of a text, or where one
of its lexemes begins or ends, the text is cut into the same tokens, and so it is read as the same
expression, or as none. -/
theorem ofChars_append_blanks {before after w : List Char} {lexemes : List Lexeme}
    (h : Lexeme.ofText (before ++ after) = .ok lexemes)
    (hseam : before = [] ∨ after = [] ∨ ∃ lexeme ∈ lexemes,
      Lexeme.byteSize before = lexeme.offset ∨
        Lexeme.byteSize before = lexeme.offset + Lexeme.byteSize lexeme.text)
    (hw : ∀ c ∈ w, Lexeme.isBlank c = true) :
    (∃ lexemes', Lexeme.ofText (before ++ (w ++ after)) = .ok lexemes' ∧
        lexemes'.map Lexeme.token = lexemes.map Lexeme.token ∧
        lexemes'.map Lexeme.text = lexemes.map Lexeme.text) ∧
      ∀ e, ofChars (before ++ (w ++ after)) = .ok e ↔ ofChars (before ++ after) = .ok e := by
  have hparts : after = [] ∨ Lexeme.IsSeam 0 before lexemes := by
    rw [Lexeme.IsSeam, Nat.zero_add]
    exact or_left_comm.1 hseam
  obtain ⟨front, back, rfl, hspaced⟩ := Lexeme.ofText_append_blanks h hparts hw
  have htokens : (front ++ back.map (Lexeme.shift (Lexeme.byteSize w))).map Lexeme.token =
      (front ++ back).map Lexeme.token := by simp
  have htexts : (front ++ back.map (Lexeme.shift (Lexeme.byteSize w))).map Lexeme.text =
      (front ++ back).map Lexeme.text := by simp
  refine ⟨⟨_, hspaced, htokens, htexts⟩, fun e => ?_⟩
  rw [ofChars_eq_ok_iff hspaced, ofChars_eq_ok_iff h, htokens]

/-- Blanks between a name and the mark after it. -/
theorem ofChars_append_blanks_strictEq :
    (∃ lexemes, Lexeme.ofText "a \n===b".toList = .ok lexemes ∧
        lexemes.map Lexeme.token = [.ident "a", .mark .strictEq, .ident "b"]) ∧
      ofChars "a \n===b".toList = .ok (.binary .strictEq (.ident "a") (.ident "b")) := by
  have hlexemes : Lexeme.ofText (['a'] ++ "===b".toList) = .ok
      [⟨.ident "a", ['a'], 0⟩, ⟨.mark .strictEq, ['=', '=', '='], 1⟩, ⟨.ident "b", ['b'], 4⟩] := by
    cbv
  have hplain : ofChars (['a'] ++ "===b".toList) =
      .ok (.binary .strictEq (.ident "a") (.ident "b")) := by cbv
  have hblanks : ∀ c ∈ [' ', '\n'], Lexeme.isBlank c = true := by simp [Lexeme.isBlank]
  obtain ⟨⟨lexemes, hspaced, htokens, -⟩, hread⟩ := ofChars_append_blanks hlexemes
    (Or.inr (Or.inr ⟨_, List.mem_cons_self, Or.inr rfl⟩)) hblanks
  exact ⟨⟨lexemes, hspaced, htokens⟩, (hread _).2 hplain⟩

end Widgetry.Expr
