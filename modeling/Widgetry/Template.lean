import Widgetry.Expr.Parser
import Widgetry.Expr.Eval

/-!
# Templates

A template is text with bindings in it, each an expression between double braces. A template that
is one binding has the value of its expression; any other has the text of its parts. Opening
braces that are never closed are text.
-/

namespace Widgetry

/-- The marks around a binding. -/
def bindingOpen : List Char := ['\x7b', '\x7b']

def bindingClose : List Char := ['\x7d', '\x7d']

/-- Whether a text holds a binding. -/
def isBinding (s : String) : Bool :=
  (Text.cut? bindingOpen s.toList).any fun sides => Text.occursIn bindingClose sides.2

/-- Whether a value is a text that holds a binding. -/
def Json.isBinding (v : Json) : Bool :=
  v.string?.any Widgetry.isBinding

/-- A part of a template. A binding keeps the text of its expression. -/
inductive Segment where
  | text (s : List Char)
  | binding (source : List Char) (expression : Expr)

/-- Text with bindings in it. -/
structure Template where
  segments : List Segment

namespace Template

/-- A text as a segment, or no segment if it is empty. -/
def textSegment (s : List Char) : List Segment :=
  if s = [] then [] else [.text s]

/-- The text up to a binding, the source of the binding, and the text after it. -/
def nextBinding? (s : List Char) : Option (List Char × List Char × List Char) :=
  match Text.cut? bindingOpen s with
  | none => none
  | some (before, afterOpen) =>
    match Text.cut? bindingClose afterOpen with
    | none => none
    | some (source, after) => some (before, source, after)

theorem cut?_of_nextBinding? {s before source after : List Char}
    (h : nextBinding? s = some (before, source, after)) :
    ∃ afterOpen, Text.cut? bindingOpen s = some (before, afterOpen) ∧
      Text.cut? bindingClose afterOpen = some (source, after) := by
  unfold nextBinding? at h
  split at h
  · simp at h
  · rename_i b afterOpen hopen
    split at h
    · simp at h
    · rename_i src aft hclose
      simp only [Option.some.injEq, Prod.mk.injEq] at h
      obtain ⟨rfl, rfl, rfl⟩ := h
      exact ⟨afterOpen, hopen, hclose⟩

theorem length_of_nextBinding? {s before source after : List Char}
    (h : nextBinding? s = some (before, source, after)) : after.length < s.length := by
  obtain ⟨afterOpen, hopen, hclose⟩ := cut?_of_nextBinding? h
  have h₁ := Text.length_of_cut? (by simp [bindingOpen]) hopen
  have h₂ := Text.length_of_cut? (by simp [bindingClose]) hclose
  omega

/-- The segments of a text. -/
def split (s : List Char) : Except ExprError (List Segment) :=
  match _h : nextBinding? s with
  | none => .ok (textSegment s)
  | some (before, source, after) =>
    match Expr.ofChars source with
    | .error e => .error e
    | .ok expression =>
      match split after with
      | .error e => .error e
      | .ok segments => .ok (textSegment before ++ .binding source expression :: segments)
termination_by s.length
decreasing_by exact length_of_nextBinding? _h

section

variable {s before source after : List Char}

theorem split_of_nextBinding?_eq_none (h : nextBinding? s = none) :
    split s = .ok (textSegment s) := by
  rw [split]
  split
  next => rfl
  next hsome =>
    rw [h] at hsome
    cases hsome

theorem split_of_nextBinding?_eq_some (h : nextBinding? s = some (before, source, after)) :
    split s = (do
      let expression ← Expr.ofChars source
      let segments ← split after
      .ok (textSegment before ++ .binding source expression :: segments)) := by
  rw [split]
  split
  next hnone =>
    rw [h] at hnone
    cases hnone
  next hsome =>
    rw [h] at hsome
    cases hsome
    split
    next hexpression =>
      rw [hexpression]
      rfl
    next expression hexpression =>
      rw [hexpression]
      split
      next hrest =>
        rw [hrest]
        rfl
      next hrest =>
        rw [hrest]
        rfl

theorem split_nil : split [] = .ok [] :=
  split_of_nextBinding?_eq_none rfl

end

/-- The template of a text, unless one of its bindings is no expression. -/
def ofString (s : String) : Except ExprError Template :=
  (split s.toList).map .mk

/-- Whether there is a binding. -/
def isDynamic (t : Template) : Bool :=
  t.segments.any fun segment => match segment with
    | .text _ => false
    | .binding _ _ => true

/-- The text of a segment. -/
def Segment.display (scope : Scope) : Segment → Except ExprError String
  | .text s => .ok (String.ofList s)
  | .binding _ expression => (expression.eval scope).map Json.display

/-- The texts of segments joined. -/
def displayAll (scope : Scope) : List Segment → Except ExprError String
  | [] => .ok ""
  | segment :: rest => do
    let s ← Segment.display scope segment
    let more ← displayAll scope rest
    .ok (s ++ more)

/-- The value of a template in a scope. -/
def eval (scope : Scope) (t : Template) : Except ExprError Json :=
  match t.segments with
  | [.binding _ expression] => expression.eval scope
  | segments => (displayAll scope segments).map .str

end Template

/-- The value of the text of a template in a scope. -/
def evalTemplate (scope : Scope) (s : String) : Except ExprError Json := do
  let t ← Template.ofString s
  t.eval scope

end Widgetry
