import Widgetry.Template

/-!
# Texts without a binding

Whether a text holds a binding is decided before it is read as a template, by a search of its own.
The search agrees with what reading comes to: a text without a binding is a template that has the
text itself as its value, and in any other text there is a binding for the template to begin with.
-/

namespace Widgetry

open Template

/-- The search finds what the template would begin with. -/
theorem isBinding_eq_isSome_nextBinding? (s : String) :
    isBinding s = (nextBinding? s.toList).isSome := by
  rw [isBinding, nextBinding?]
  cases Text.cut? bindingOpen s.toList with
  | none => rfl
  | some sides =>
      obtain ⟨before, afterOpen⟩ := sides
      rw [Option.any_some, Text.occursIn]
      dsimp only
      cases Text.cut? bindingClose afterOpen <;> rfl

namespace Template

/-- A template that holds text only has this text as its value. -/
theorem eval_textSegment (scope : Scope) (s : String) :
    eval scope ⟨textSegment s.toList⟩ = .ok (.str s) := by
  unfold textSegment
  split
  next hnil =>
    obtain rfl : s = "" := String.toList_eq_nil_iff.1 hnil
    rfl
  next =>
    have hdisplay : displayAll scope [.text s.toList] = .ok (String.ofList s.toList ++ "") := rfl
    rw [String.ofList_toList, String.append_empty] at hdisplay
    show (displayAll scope [.text s.toList]).map Json.str = .ok (.str s)
    rw [hdisplay]
    rfl

theorem isDynamic_textSegment (s : List Char) : isDynamic ⟨textSegment s⟩ = false := by
  unfold textSegment
  split <;> rfl

theorem ofString_of_not_isBinding {s : String} (h : isBinding s = false) :
    ofString s = .ok ⟨textSegment s.toList⟩ := by
  rw [isBinding_eq_isSome_nextBinding?, Option.isSome_eq_false_iff, Option.isNone_iff_eq_none] at h
  rw [ofString, split_of_nextBinding?_eq_none h]
  rfl

/-- A text that is split at a binding. -/
theorem exists_of_split {s before source after : List Char} {segments : List Segment}
    (h : nextBinding? s = some (before, source, after)) (hsplit : split s = .ok segments) :
    ∃ expression rest, Expr.ofChars source = .ok expression ∧ split after = .ok rest ∧
      segments = textSegment before ++ .binding source expression :: rest := by
  rw [split_of_nextBinding?_eq_some h] at hsplit
  cases hexpression : Expr.ofChars source with
  | error cause =>
      rw [hexpression] at hsplit
      cases hsplit
  | ok expression =>
      cases hrest : split after with
      | error cause =>
          rw [hexpression, hrest] at hsplit
          cases hsplit
      | ok rest =>
          rw [hexpression, hrest] at hsplit
          exact ⟨expression, rest, rfl, rfl, (Except.ok.inj hsplit).symm⟩

theorem split_of_ofString {s : String} {t : Template} (h : ofString s = .ok t) :
    split s.toList = .ok t.segments := by
  rw [ofString] at h
  cases hsplit : split s.toList with
  | error cause =>
      rw [hsplit] at h
      cases h
  | ok segments =>
      rw [hsplit] at h
      rw [← Except.ok.inj h]

theorem isDynamic_of_isBinding {s : String} (h : isBinding s = true) {t : Template}
    (ht : ofString s = .ok t) : t.isDynamic = true := by
  rw [isBinding_eq_isSome_nextBinding?] at h
  obtain ⟨⟨before, source, after⟩, hnext⟩ := Option.isSome_iff_exists.1 h
  obtain ⟨expression, rest, -, -, hsegments⟩ := exists_of_split hnext (split_of_ofString ht)
  rw [isDynamic, hsegments]
  simp

end Template

end Widgetry
