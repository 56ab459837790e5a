import Widgetry.Template
import Widgetry.Proofs.Expr.Brace

/-!
# Expressions between braces

The binding that ends a template is looked for without regard to what an expression is: it ends at
the first closing braces. Those that enclose an expression are found unless the expression has
closing braces itself, and it can have them in a string only. Then the binding ends inside of the
string.
-/

namespace Widgetry

/-- A text between double braces. -/
def enclose (source : List Char) : String :=
  String.ofList (bindingOpen ++ (source ++ bindingClose))

namespace Expr

variable {source : List Char} {e : Expr}

theorem exists_lexemes_of_ofChars (h : ofChars source = .ok e) :
    ∃ lexemes, Lexeme.ofText source = .ok lexemes := by
  rw [ofChars] at h
  cases hlexemes : Lexeme.ofText source with
  | error cause =>
      rw [hlexemes] at h
      cases h
  | ok lexemes => exact ⟨lexemes, rfl⟩

/-- What stands before a brace in an expression breaks off at a string, the one that has the brace
in it. -/
theorem ofChars_of_append_brace {x : Char} (hx : Lexeme.IsBrace x) {a rest : List Char}
    (h : ofChars (a ++ x :: rest) = .ok e) :
    ∃ lexemes, Lexeme.ofText (a ++ x :: rest) = .ok lexemes ∧
      ∃ lexeme ∈ lexemes, (∃ s, lexeme.token = .string s) ∧
        ofChars a = .error (.syntaxError .unterminatedString lexeme.offset) ∧
        ∃ start, ∃ more < rest.length, lexeme.text = start ++ x :: rest.take (more + 1) := by
  obtain ⟨lexemes, hlexemes⟩ := exists_lexemes_of_ofChars h
  obtain ⟨lexeme, hmem, hstring, hbroken, htext⟩ := Lexeme.readAll_append hx hlexemes
  refine ⟨lexemes, hlexemes, lexeme, hmem, hstring, ?_, htext⟩
  rw [ofChars, Lexeme.ofText, hbroken]
  rfl

/-- No expression ends with a brace. -/
theorem ne_append_brace_of_ofChars (h : ofChars source = .ok e) (a : List Char) :
    source ≠ a ++ ['\x7d'] := by
  rintro rfl
  obtain ⟨lexemes, -, lexeme, -, -, -, start, more, hmore, -⟩ :=
    ofChars_of_append_brace (Or.inr rfl) h
  exact Nat.not_lt_zero more hmore

end Expr

namespace Template

variable {source : List Char} {e : Expr}

theorem nextBinding?_enclose {body after : List Char}
    (h : Text.cut? bindingClose (source ++ bindingClose) = some (body, after)) :
    nextBinding? (enclose source).toList = some ([], body, after) := by
  have hopen : Text.cut? bindingOpen (bindingOpen ++ (source ++ bindingClose)) =
      some ([], source ++ bindingClose) := rfl
  rw [enclose, String.toList_ofList, nextBinding?, hopen]
  dsimp only
  rw [h]

/-- Closing braces are found where they are if there are none before them, nor one brace right
before them. -/
theorem cut?_append_bindingClose (hclose : Text.occursIn bindingClose source = false)
    (hlast : ∀ a, source ≠ a ++ ['\x7d']) :
    Text.cut? bindingClose (source ++ bindingClose) = some (source, []) := by
  induction source with
  | nil => rfl
  | cons c rest ih =>
      have hrest : Text.occursIn bindingClose rest = false := by
        rw [Bool.eq_false_iff, ne_eq, Text.occursIn_iff] at hclose ⊢
        exact fun h => hclose (h.trans (List.infix_cons_iff.2 (Or.inr List.infix_rfl)))
      have hrestLast (a : List Char) : rest ≠ a ++ ['\x7d'] := by
        rintro rfl
        exact hlast (c :: a) rfl
      have hprefix : ¬bindingClose.isPrefixOf (c :: (rest ++ bindingClose)) = true := by
        intro h
        cases rest with
        | nil =>
            obtain rfl : '\x7d' = c := by simpa [bindingClose, List.isPrefixOf] using h
            exact hlast [] rfl
        | cons d rest =>
            obtain ⟨rfl, rfl⟩ : '\x7d' = c ∧ '\x7d' = d := by
              simpa [bindingClose, List.isPrefixOf] using h
            cases hclose
      rw [List.cons_append, Text.cut?, if_neg hprefix, ih hrest hrestLast]
      rfl

/-- An expression without closing braces is what is enclosed. -/
theorem ofString_enclose (h : Expr.ofChars source = .ok e)
    (hclose : Text.occursIn bindingClose source = false) :
    ofString (enclose source) = .ok ⟨[.binding source e]⟩ := by
  have hnext := nextBinding?_enclose
    (cut?_append_bindingClose hclose (Expr.ne_append_brace_of_ofChars h))
  rw [ofString, split_of_nextBinding?_eq_some hnext, h, split_nil]
  rfl

/-- An expression with closing braces is broken off at them, in a string. -/
theorem ofString_enclose_of_occursIn (h : Expr.ofChars source = .ok e)
    (hclose : Text.occursIn bindingClose source = true) :
    ∃ lexemes, Lexeme.ofText source = .ok lexemes ∧
      ∃ lexeme ∈ lexemes, (∃ s, lexeme.token = .string s) ∧
        Text.occursIn bindingClose lexeme.text = true ∧
        ofString (enclose source) = .error (.syntaxError .unterminatedString lexeme.offset) := by
  obtain ⟨⟨body, after⟩, hcut⟩ := Option.isSome_iff_exists.1 hclose
  have hnext := nextBinding?_enclose (Text.cut?_append (by decide) hcut bindingClose)
  have hsource : source = body ++ '\x7d' :: '\x7d' :: after := by
    rw [Text.eq_append_of_cut? hcut, List.append_assoc]
    rfl
  rw [hsource] at h
  obtain ⟨lexemes, hlexemes, lexeme, hmem, hstring, hbroken, start, more, -, htext⟩ :=
    Expr.ofChars_of_append_brace (Or.inr rfl) h
  rw [← hsource] at hlexemes
  refine ⟨lexemes, hlexemes, lexeme, hmem, hstring, ?_, ?_⟩
  · rw [htext, Text.occursIn_iff]
    exact ⟨start, after.take more, by simp [bindingClose]⟩
  · rw [ofString, split_of_nextBinding?_eq_some hnext, hbroken]
    rfl

/-- The binding that encloses an expression is that expression exactly if the expression has no
closing braces. An expression that has them has them in a string, and the template is rejected as if
that string did not end. -/
theorem ofString_enclose_iff (h : Expr.ofChars source = .ok e) :
    (ofString (enclose source) = .ok ⟨[.binding source e]⟩ ↔
        Text.occursIn bindingClose source = false) ∧
      (Text.occursIn bindingClose source = false →
        ∀ scope, evalTemplate scope (enclose source) = e.eval scope) ∧
      (Text.occursIn bindingClose source = true →
        ∃ lexemes, Lexeme.ofText source = .ok lexemes ∧
          ∃ lexeme ∈ lexemes, (∃ s, lexeme.token = .string s) ∧
            Text.occursIn bindingClose lexeme.text = true ∧
            ofString (enclose source) =
              .error (.syntaxError .unterminatedString lexeme.offset)) := by
  refine ⟨⟨fun hone => ?_, ofString_enclose h⟩, fun hclose scope => ?_,
    ofString_enclose_of_occursIn h⟩
  · cases hclose : Text.occursIn bindingClose source with
    | false => rfl
    | true =>
        obtain ⟨-, -, lexeme, -, -, -, herror⟩ := ofString_enclose_of_occursIn h hclose
        rw [hone] at herror
        cases herror
  · rw [evalTemplate, ofString_enclose h hclose]
    rfl

/-- Braces that are not the closing ones do no harm, in a string neither. -/
theorem ofString_enclose_braces :
    Expr.ofChars "'\x7d' + \"\x7b\x7b\"".toList =
        .ok (.binary .add (.literal (.str "\x7d")) (.literal (.str "\x7b\x7b"))) ∧
      ofString (enclose "'\x7d' + \"\x7b\x7b\"".toList) =
        .ok ⟨[.binding "'\x7d' + \"\x7b\x7b\"".toList
          (.binary .add (.literal (.str "\x7d")) (.literal (.str "\x7b\x7b")))]⟩ ∧
      ∀ scope, evalTemplate scope (enclose "'\x7d' + \"\x7b\x7b\"".toList) =
        (Expr.binary .add (.literal (.str "\x7d")) (.literal (.str "\x7b\x7b"))).eval scope := by
  have h : Expr.ofChars "'\x7d' + \"\x7b\x7b\"".toList =
      .ok (.binary .add (.literal (.str "\x7d")) (.literal (.str "\x7b\x7b"))) := by
    cbv
  have hclose : Text.occursIn bindingClose "'\x7d' + \"\x7b\x7b\"".toList = false := by
    decide
  obtain ⟨hiff, heval, -⟩ := ofString_enclose_iff h
  exact ⟨h, hiff.2 hclose, heval hclose⟩

/-- Closing braces in a string end the binding. -/
theorem ofString_enclose_closing :
    Expr.ofChars "\"\x7d\x7d\"".toList = .ok (.literal (.str "\x7d\x7d")) ∧
      ofString (enclose "\"\x7d\x7d\"".toList) =
        .error (.syntaxError .unterminatedString 0) := by
  constructor
  · cbv
  · cbv

end Template

end Widgetry
