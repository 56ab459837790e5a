import Widgetry.Proofs.Expr.Reading
import Widgetry.Proofs.Expr.Tiling

/-!
# String literals

Every text has a literal between quotes of either kind: a backslash stands before each backslash and
before each quote of that kind, and all other characters stand for themselves. What is scanned of
such a literal is the text, whatever comes after the closing quote.
-/

namespace Widgetry

namespace Lexeme

/-- A character as it stands between quotes. -/
def escapeChar (quote c : Char) : List Char :=
  if c = '\\' ∨ c = quote then ['\\', c] else [c]

/-- A text as it stands between quotes. -/
def escape (quote : Char) (s : List Char) : List Char :=
  s.flatMap (escapeChar quote)

/-- The literal of a text. -/
def quoted (quote : Char) (s : String) : List Char :=
  quote :: (escape quote s.toList ++ [quote])

section

variable {quote : Char} (hquote : quote = '"' ∨ quote = '\'')

include hquote

/-- None of the letters that stand for another character is escaped. -/
theorem unescape_eq_self {c : Char} (hc : c = '\\' ∨ c = quote) : unescape c = c := by
  rcases hc with rfl | rfl
  · rfl
  · rcases hquote with rfl | rfl
    · rfl
    · rfl

theorem readString?_escape (s rest read : List Char) (count : Nat) :
    readString? quote read count (escape quote s ++ quote :: rest) =
      some (read.reverse ++ s, count + (escape quote s).length + 1) := by
  have hne : quote ≠ '\\' := ne_backslash_of_quote hquote
  induction s generalizing read count with
  | nil => simp [escape, readString?_cons hne]
  | cons c s ih =>
      have hescape : escape quote (c :: s) = escapeChar quote c ++ escape quote s := rfl
      rw [hescape, List.append_assoc, List.length_append]
      by_cases hc : c = '\\' ∨ c = quote
      · have hcount : count + 2 + (escape quote s).length + 1 =
            count + (['\\', c].length + (escape quote s).length) + 1 := by
          rw [List.length_cons, List.length_singleton]
          omega
        rw [escapeChar, if_pos hc, List.cons_append, List.singleton_append, readString?,
          unescape_eq_self hquote hc, ih, hcount, List.reverse_cons, List.append_assoc,
          List.singleton_append]
      · obtain ⟨hplain, hother⟩ := not_or.1 hc
        have hcount : count + 1 + (escape quote s).length + 1 =
            count + ([c].length + (escape quote s).length) + 1 := by
          rw [List.length_singleton]
          omega
        rw [escapeChar, if_neg hc, List.singleton_append, readString?_cons hplain, if_neg hother,
          ih, hcount, List.reverse_cons, List.append_assoc, List.singleton_append]

/-- A literal is scanned as the string that it stands for, whatever comes after it. -/
theorem scan_quoted (s : String) (rest : List Char) :
    scan quote (escape quote s.toList ++ quote :: rest) =
      .ok (.string s, (escape quote s.toList ++ [quote]).length) := by
  rw [scan_quote hquote, readString?_escape hquote]
  simp

/-- A literal is one lexeme. -/
theorem ofText_quoted (s : String) :
    ofText (quoted quote s) = .ok [⟨.string s, quoted quote s, 0⟩] := by
  have hblank : isBlank quote = false := by rcases hquote with rfl | rfl <;> decide
  have hcut : Cut 0 (quote :: (escape quote s.toList ++ [quote]) ++ [])
      [⟨.string s, quoted quote s, 0⟩] := by
    refine .lexeme hblank ?_ (.nil _)
    rw [List.append_nil]
    exact scan_quoted hquote s []
  rw [List.append_nil] at hcut
  exact ofText_eq_ok_iff.2 hcut

end

end Lexeme

namespace Expr

/-- **Every text has a literal.** Between quotes of either kind, a text with its backslashes and
quotes escaped is read as that text. -/
theorem ofChars_quoted {quote : Char} (hquote : quote = '"' ∨ quote = '\'') (s : String) :
    ofChars (Lexeme.quoted quote s) = .ok (.literal (.str s)) := by
  obtain ⟨d, hneed⟩ := Derivation.exists_of_linked (.unlinked (.string s)) operatorLevels
  refine (ofChars_eq_ok_iff (Lexeme.ofText_quoted hquote s) _).2 ⟨.operand d, ?_⟩
  rw [Derivation.need, hneed]
  simp [Derivation.need, maxDepth]

/-- An escaped backslash neither hides the closing quote nor makes a line break of a letter after
it. -/
theorem ofChars_quoted_backslash :
    Lexeme.quoted '\'' "\\n'\"é\\" = "'\\\\n\\'\"é\\\\'".toList ∧
      ofChars "'\\\\n\\'\"é\\\\'".toList = .ok (.literal (.str "\\n'\"é\\")) := by
  have htext : Lexeme.quoted '\'' "\\n'\"é\\" = "'\\\\n\\'\"é\\\\'".toList := by decide
  have hread := ofChars_quoted (Or.inr rfl) "\\n'\"é\\"
  rw [htext] at hread
  exact ⟨htext, hread⟩

end Expr

end Widgetry
