import Widgetry.Expr.Token

/-!
# Texts with given tokens

Marks, and the name `a`, can be written one after the other with blanks between them, and the text
is cut into these tokens again. So what is shown of tokens of this sort is a fact about texts.
-/

namespace Widgetry

/-- A mark, or the name `a`. -/
def Token.IsPlain (token : Token) : Prop :=
  token = .ident "a" ∨ ∃ mark, token = .mark mark

theorem Token.isPlain_a : Token.IsPlain (.ident "a") :=
  Or.inl rfl

theorem Token.isPlain_mark (mark : Mark) : Token.IsPlain (.mark mark) :=
  Or.inr ⟨mark, rfl⟩

namespace Lexeme

/-- The characters of a plain token. -/
def spell : Token → List Char
  | .mark mark => mark.chars
  | _ => ['a']

/-- A text with the given plain tokens. -/
def spellAll (tokens : List Token) : List Char :=
  tokens.flatMap fun token => spell token ++ [' ']

theorem scan_mark (mark : Mark) (rest : List Char) :
    ∃ c cs, mark.chars = c :: cs ∧ isBlank c = false ∧
      scan c (cs ++ ' ' :: rest) = .ok (.mark mark, cs.length) := by
  cases mark <;> refine ⟨_, _, rfl, by decide, ?_⟩ <;>
    simp [scan, isNameStart, Mark.begin?, Mark.all, Mark.chars, List.isPrefixOf]

/-- A plain token with a blank after it is scanned as it is. -/
theorem scan_spell {token : Token} (h : token.IsPlain) (rest : List Char) :
    ∃ c cs, spell token = c :: cs ∧ isBlank c = false ∧
      scan c (cs ++ ' ' :: rest) = .ok (token, cs.length) := by
  rcases h with rfl | ⟨mark, rfl⟩
  · exact ⟨'a', [], rfl, by decide, by simp [scan, isNameStart, isNameChar]⟩
  · exact scan_mark mark rest

/-- The lexemes of the text of plain tokens, after those that have been read. -/
theorem readAll_spellAll {tokens : List Token} (h : ∀ token ∈ tokens, token.IsPlain) :
    ∀ read offset, ∃ lexemes, lexemes.map Lexeme.token = tokens ∧
      readAll read offset (spellAll tokens) = .ok (read.reverse ++ lexemes) := by
  induction tokens with
  | nil =>
      intro read offset
      exact ⟨[], rfl, by simp [spellAll, readAll]⟩
  | cons token rest ih =>
      intro read offset
      obtain ⟨c, cs, hspell, hblank, hscan⟩ :=
        scan_spell (h token List.mem_cons_self) (spellAll rest)
      have htext : spellAll (token :: rest) = c :: (cs ++ ' ' :: spellAll rest) := by
        simp [spellAll, hspell]
      have htake : (cs ++ ' ' :: spellAll rest).take cs.length = cs := by simp
      have hdrop : (cs ++ ' ' :: spellAll rest).drop cs.length = ' ' :: spellAll rest := by simp
      obtain ⟨lexemes, hlexemes, hread⟩ := ih (fun t ht => h t (List.mem_cons_of_mem _ ht))
        (⟨token, c :: cs, offset⟩ :: read) (offset + byteSize (c :: cs) + ' '.utf8Size)
      refine ⟨⟨token, c :: cs, offset⟩ :: lexemes, by simp [hlexemes], ?_⟩
      rw [htext, readAll, if_neg (by simp [hblank]), hscan]
      dsimp only
      rw [htake, hdrop, readAll, if_pos (by decide), hread]
      simp

/-- Plain tokens are the tokens of a text. -/
theorem ofText_spellAll {tokens : List Token} (h : ∀ token ∈ tokens, token.IsPlain) :
    ∃ lexemes, lexemes.map Lexeme.token = tokens ∧ ofText (spellAll tokens) = .ok lexemes := by
  obtain ⟨lexemes, hlexemes, hread⟩ := readAll_spellAll h [] 0
  exact ⟨lexemes, hlexemes, hread⟩

end Lexeme

end Widgetry
