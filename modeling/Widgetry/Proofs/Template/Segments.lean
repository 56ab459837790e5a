import Mathlib
import Widgetry.Proofs.Template.Literal

/-!
# The segments of a template

A text is split into segments without loss: written out one after the other, with the braces around
the bindings, they are the text again. The split goes as far as it can. Text is never empty and
never next to other text, there is no binding left in it, and a binding ends at the first closing
braces.
-/

namespace Widgetry

/-- The characters of a segment, with the braces of a binding. -/
def Segment.chars : Segment → List Char
  | .text s => s
  | .binding source _ => bindingOpen ++ (source ++ bindingClose)

namespace Template

/-- What holds of a text without a binding, and of a text that is split at a binding if it holds of
what is after it, holds of every text that is split. -/
@[elab_as_elim]
theorem split_induction {motive : List Char → List Segment → Prop}
    (text : ∀ s, nextBinding? s = none → motive s (textSegment s))
    (binding : ∀ s before source after expression rest,
      nextBinding? s = some (before, source, after) → Expr.ofChars source = .ok expression →
        motive after rest → motive s (textSegment before ++ .binding source expression :: rest))
    {s : List Char} {segments : List Segment} (h : split s = .ok segments) :
    motive s segments := by
  induction s using split.induct generalizing segments with
  | case1 s hnone =>
      rw [split_of_nextBinding?_eq_none hnone] at h
      obtain rfl := Except.ok.inj h
      exact text s hnone
  | case2 s before source after hnext error herror =>
      obtain ⟨expression, rest, hexpression, -, -⟩ := exists_of_split hnext h
      rw [herror] at hexpression
      cases hexpression
  | case3 s before source after hnext expression hexpression error herror ih =>
      obtain ⟨expression, rest, -, hrest, -⟩ := exists_of_split hnext h
      rw [herror] at hrest
      cases hrest
  | case4 s before source after hnext expression hexpression rest hrest ih =>
      obtain ⟨expression', rest', hexpression', hrest', rfl⟩ := exists_of_split hnext h
      exact binding s before source after expression' rest' hnext hexpression' (ih hrest')

section

variable {s before source after : List Char}
  (h : nextBinding? s = some (before, source, after))

include h

theorem eq_append_of_nextBinding? :
    s = before ++ (bindingOpen ++ (source ++ bindingClose)) ++ after := by
  obtain ⟨afterOpen, hopen, hclose⟩ := cut?_of_nextBinding? h
  rw [Text.eq_append_of_cut? hopen, Text.eq_append_of_cut? hclose]
  simp only [List.append_assoc]

/-- There are no opening braces before those of a binding. -/
theorem isBinding_before : isBinding (String.ofList before) = false := by
  obtain ⟨afterOpen, hopen, -⟩ := cut?_of_nextBinding? h
  have hwithin := Text.not_infix_of_cut? (by simp [bindingOpen]) hopen
  rw [isBinding, String.toList_ofList]
  cases hcut : Text.cut? bindingOpen before with
  | none => rfl
  | some sides =>
      refine (hwithin ?_).elim
      rw [← Text.occursIn_iff, Text.occursIn, hcut]
      rfl

theorem not_infix_source : ¬bindingClose <:+: source := by
  obtain ⟨afterOpen, -, hclose⟩ := cut?_of_nextBinding? h
  exact Text.not_infix_of_cut? (by simp [bindingClose]) hclose

end

theorem flatMap_chars_textSegment (s : List Char) : (textSegment s).flatMap Segment.chars = s := by
  unfold textSegment
  split
  next hnil => rw [hnil, List.flatMap_nil]
  next => rw [List.flatMap_singleton, Segment.chars]

theorem mem_textSegment_iff {s text : List Char} :
    .text text ∈ textSegment s ↔ text = s ∧ s ≠ [] := by
  unfold textSegment
  split
  next hnil => simp [hnil]
  next hne => simp [hne]

theorem binding_not_mem_textSegment (s source : List Char) (expression : Expr) :
    .binding source expression ∉ textSegment s := by
  unfold textSegment
  split <;> simp

variable {s : List Char} {segments : List Segment}

/-- Written out, the segments are the text that they were split from. -/
theorem flatMap_chars_of_split (h : split s = .ok segments) :
    segments.flatMap Segment.chars = s := by
  refine split_induction (fun s _ => flatMap_chars_textSegment s) ?_ h
  intro s before source after expression rest hnext _ ih
  rw [List.flatMap_append, List.flatMap_cons, flatMap_chars_textSegment, ih, Segment.chars,
    eq_append_of_nextBinding? hnext]
  simp only [List.append_assoc]

/-- Text is not empty, and no binding is left in it. -/
theorem text_of_split (h : split s = .ok segments) :
    ∀ text, .text text ∈ segments → text ≠ [] ∧ isBinding (String.ofList text) = false := by
  refine split_induction ?_ ?_ h
  · intro s hnone text hmem
    obtain ⟨rfl, hne⟩ := mem_textSegment_iff.1 hmem
    rw [isBinding_eq_isSome_nextBinding?, String.toList_ofList, hnone]
    exact ⟨hne, rfl⟩
  · intro s before source after expression rest hnext _ ih text hmem
    rcases List.mem_append.1 hmem with hbefore | hrest
    · obtain ⟨rfl, hne⟩ := mem_textSegment_iff.1 hbefore
      exact ⟨hne, isBinding_before hnext⟩
    · exact ih text (List.mem_of_ne_of_mem (by simp) hrest)

/-- A binding ends at the first closing braces, and has the expression of its source. -/
theorem binding_of_split (h : split s = .ok segments) :
    ∀ source expression, .binding source expression ∈ segments →
      ¬bindingClose <:+: source ∧ Expr.ofChars source = .ok expression := by
  refine split_induction ?_ ?_ h
  · intro s _ source expression hmem
    exact (binding_not_mem_textSegment s source expression hmem).elim
  · intro s before source after expression rest hnext hexpression ih source' expression' hmem
    rcases List.mem_append.1 hmem with hbefore | hrest
    · exact (binding_not_mem_textSegment before source' expression' hbefore).elim
    · rcases List.mem_cons.1 hrest with heq | hrest
      · obtain ⟨rfl, rfl⟩ := Segment.binding.inj heq
        exact ⟨not_infix_source hnext, hexpression⟩
      · exact ih source' expression' hrest

/-- Text is not next to text, since there is a binding between them. -/
theorem not_infix_of_split (h : split s = .ok segments) :
    ∀ a b, ¬[.text a, .text b] <:+: segments := by
  refine split_induction ?_ ?_ h
  · intro s _ a b hwithin
    have hlength := hwithin.length_le
    unfold textSegment at hlength
    split at hlength <;> simp at hlength
  · intro s before source after expression rest _ _ ih a b hwithin
    have hrest : ¬[.text a, .text b] <:+: .binding source expression :: rest := by
      rw [List.infix_cons_iff, List.cons_prefix_cons]
      rintro (⟨heq, -⟩ | hrest)
      · cases heq
      · exact ih a b hrest
    unfold textSegment at hwithin
    split at hwithin
    next => exact hrest hwithin
    next =>
      rw [List.singleton_append, List.infix_cons_iff, List.cons_prefix_cons,
        List.cons_prefix_cons] at hwithin
      rcases hwithin with ⟨-, heq, -⟩ | hwithin
      · cases heq
      · exact hrest hwithin

/-- **Splitting a text loses nothing and leaves nothing to split.** The segments of a template are
its text again, with the braces around the bindings. No text in it is empty, holds a binding or is
next to other text, and no binding has closing braces in it; each has the expression of its
source. -/
theorem ofString_segments {source : String} {t : Template} (h : ofString source = .ok t) :
    String.ofList (t.segments.flatMap Segment.chars) = source ∧
      (∀ text, .text text ∈ t.segments → text ≠ [] ∧ isBinding (String.ofList text) = false) ∧
      (∀ a b, ¬[.text a, .text b] <:+: t.segments) ∧
      ∀ body expression, .binding body expression ∈ t.segments →
        ¬bindingClose <:+: body ∧ Expr.ofChars body = .ok expression := by
  have hsplit := split_of_ofString h
  refine ⟨?_, text_of_split hsplit, not_infix_of_split hsplit, binding_of_split hsplit⟩
  rw [flatMap_chars_of_split hsplit, String.ofList_toList]

/-- Braces that close no binding, or open none, are text. -/
theorem ofString_segments_braces :
    ofString "\x7b\x7ba\x7d\x7d\x7d\x7d\x7b\x7b\x7b" =
        .ok ⟨[.binding ['a'] (.ident "a"), .text "\x7d\x7d\x7b\x7b\x7b".toList]⟩ ∧
      String.ofList
          ([.binding ['a'] (.ident "a"), .text "\x7d\x7d\x7b\x7b\x7b".toList].flatMap
            Segment.chars) = "\x7b\x7ba\x7d\x7d\x7d\x7d\x7b\x7b\x7b" ∧
      isBinding (String.ofList "\x7d\x7d\x7b\x7b\x7b".toList) = false ∧
      ¬bindingClose <:+: ['a'] := by
  have h : ofString "\x7b\x7ba\x7d\x7d\x7d\x7d\x7b\x7b\x7b" =
      .ok ⟨[.binding ['a'] (.ident "a"), .text "\x7d\x7d\x7b\x7b\x7b".toList]⟩ := by
    cbv
  obtain ⟨hchars, htext, -, hbinding⟩ := ofString_segments h
  exact ⟨h, hchars, (htext _ (by simp)).2, (hbinding ['a'] (.ident "a") (by simp)).1⟩

end Template

end Widgetry
