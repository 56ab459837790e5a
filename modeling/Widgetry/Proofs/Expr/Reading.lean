import Mathlib
import Widgetry.Proofs.Expr.Completeness
import Widgetry.Proofs.Expr.Soundness

/-!
# The reader and the grammar

Soundness and completeness put together for whole texts. What is read of a text is what the grammar
derives from its tokens; the budget decides whether it is read at all, and a text that the grammar
derives is refused for no other reason.
-/

namespace Widgetry.Expr

/-- Lexemes whose tokens are derived as a whole: they are read if the derivation needs no more than
the budget, and too deep if it does. -/
theorem affords_ofLexemes (finish : Nat) {lexemes : List Lexeme} {e : Expr}
    (d : Derivation (.conditional e) (lexemes.map Lexeme.token)) :
    Affords maxDepth d.need (ofLexemes finish lexemes) (.ok e) := by
  have hne : lexemes ≠ [] := by
    rintro rfl
    exact d.begins (by simp)
  have hread := d.readAs finish lexemes rfl maxDepth [] trivial
  rw [List.append_nil] at hread
  rw [ofLexemes, if_neg hne]
  refine (hread.bind _).trans_eq ?_
  rw [ok_bind]
  rfl

/-- Lexemes that are read as a whole have a derivation within the budget. -/
theorem exists_derivation_of_ofLexemes {finish : Nat} {lexemes : List Lexeme} {e : Expr}
    (h : ofLexemes finish lexemes = .ok e) :
    ∃ d : Derivation (.conditional e) (lexemes.map Lexeme.token), d.need ≤ maxDepth := by
  unfold ofLexemes at h
  split at h
  · exact absurd h (by simp)
  · obtain ⟨⟨e', rest⟩, hread, h₁⟩ := bind_eq_ok_iff.mp h
    dsimp only at h₁
    split at h₁
    · rename_i hrest
      subst hrest
      obtain rfl := Except.ok.inj h₁
      obtain ⟨taken, rfl, d, hd⟩ := readConditional_sound finish maxDepth lexemes e' [] hread
      rw [List.append_nil]
      exact ⟨d, hd⟩
    · exact absurd h₁ failAt_ne_ok

/-- A text is read as a tree exactly if its tokens derive the tree within the budget. -/
theorem ofChars_eq_ok_iff {text : List Char} {lexemes : List Lexeme}
    (h : Lexeme.ofText text = .ok lexemes) (e : Expr) :
    ofChars text = .ok e ↔
      ∃ d : Derivation (.conditional e) (lexemes.map Lexeme.token), d.need ≤ maxDepth := by
  rw [ofChars, h, ok_bind]
  constructor
  · exact exists_derivation_of_ofLexemes
  · rintro ⟨d, hd⟩
    exact (affords_ofLexemes _ d).eq_of_le hd

/-- **The reader accepts the grammar.** What is read of a text is derived from its tokens. What is
derived from them is read as it is derived, save where the text is refused as too deep. -/
theorem ofChars_sound_and_complete {text : List Char} {lexemes : List Lexeme}
    (h : Lexeme.ofText text = .ok lexemes) (e : Expr) :
    (ofChars text = .ok e →
      Nonempty (Derivation (.conditional e) (lexemes.map Lexeme.token))) ∧
    (Nonempty (Derivation (.conditional e) (lexemes.map Lexeme.token)) →
      ofChars text = .ok e ∨
        ∃ cause offset, ofChars text = .error (.syntaxError cause offset) ∧
          cause.message = "expression nested too deeply") := by
  constructor
  · intro hread
    obtain ⟨d, -⟩ := (ofChars_eq_ok_iff h e).mp hread
    exact ⟨d⟩
  · rintro ⟨d⟩
    have hread : Affords maxDepth d.need (ofChars text) (.ok e) := by
      rw [ofChars, h, ok_bind]
      exact affords_ofLexemes _ d
    rcases Nat.lt_or_ge maxDepth d.need with hlt | hle
    · obtain ⟨offset, hdeep⟩ := hread.exists_of_lt hlt
      exact Or.inr ⟨.tooDeep, offset, hdeep, rfl⟩
    · exact Or.inl (hread.eq_of_le hle)

/-- A difference groups to the left, and a product in it is taken first. -/
theorem ofChars_sound_and_complete_difference :
    ∃ lexemes, Lexeme.ofText "a-b-c*d".toList = .ok lexemes ∧
      Nonempty (Derivation
        (.conditional (.binary .sub (.binary .sub (.ident "a") (.ident "b"))
          (.binary .mul (.ident "c") (.ident "d"))))
        (lexemes.map Lexeme.token)) := by
  have hlexemes : Lexeme.ofText "a-b-c*d".toList = .ok
      [⟨.ident "a", ['a'], 0⟩, ⟨.mark .minus, ['-'], 1⟩, ⟨.ident "b", ['b'], 2⟩,
        ⟨.mark .minus, ['-'], 3⟩, ⟨.ident "c", ['c'], 4⟩, ⟨.mark .star, ['*'], 5⟩,
        ⟨.ident "d", ['d'], 6⟩] := by cbv
  exact ⟨_, hlexemes, (ofChars_sound_and_complete hlexemes _).1 (by cbv)⟩

end Widgetry.Expr
