/-!
# Searching a text for a text

`cut?` finds the first place where a text stands inside another one and gives what lies on its two
sides; `eq_append_of_cut?` says that the three parts together are the whole, and `cut?_append` that
what follows the whole makes no difference to the place.
-/

namespace Widgetry.Text

/-- What lies before and after the first occurrence of `needle` in a text. -/
def cut? (needle : List Char) : List Char → Option (List Char × List Char)
  | [] => if needle = [] then some ([], []) else none
  | c :: rest =>
    if needle.isPrefixOf (c :: rest) then some ([], (c :: rest).drop needle.length)
    else (cut? needle rest).map fun sides => (c :: sides.1, sides.2)

/-- Whether a text stands somewhere inside another one. -/
def occursIn (needle s : List Char) : Bool :=
  (cut? needle s).isSome

/-- What lies before and after the last occurrence of a character. -/
def cutLast? (mark : Char) (s : List Char) : Option (List Char × List Char) :=
  match s.reverse.dropWhile (· ≠ mark) with
  | _ :: before => some (before.reverse, (s.reverse.takeWhile (· ≠ mark)).reverse)
  | [] => none

theorem eq_append_of_cut? {needle s before after : List Char}
    (h : cut? needle s = some (before, after)) : s = before ++ needle ++ after := by
  induction s generalizing before with
  | nil =>
    simp only [cut?, Option.ite_none_right_eq_some, Option.some.injEq, Prod.mk.injEq] at h
    obtain ⟨rfl, rfl, rfl⟩ := h
    rfl
  | cons c rest ih =>
    unfold cut? at h
    split at h
    · rename_i hp
      obtain ⟨t, ht⟩ := List.isPrefixOf_iff_prefix.1 hp
      simp only [Option.some.injEq, Prod.mk.injEq] at h
      obtain ⟨rfl, rfl⟩ := h
      simp [← ht]
    · obtain ⟨sides, hs, e⟩ := Option.map_eq_some_iff.1 h
      simp only [Prod.mk.injEq] at e
      obtain ⟨rfl, rfl⟩ := e
      simp [ih hs]

/-- What follows an occurrence of a text that is not empty is shorter than the whole. -/
theorem length_of_cut? {needle s before after : List Char} (hn : needle ≠ [])
    (h : cut? needle s = some (before, after)) : after.length < s.length := by
  have := List.length_pos_iff.2 hn
  rw [eq_append_of_cut? h]
  simp
  omega

/-- The first occurrence in a text is the first one however the text goes on. -/
theorem cut?_append {needle s before after : List Char} (hn : needle ≠ [])
    (h : cut? needle s = some (before, after)) (more : List Char) :
    cut? needle (s ++ more) = some (before, after ++ more) := by
  induction s generalizing before with
  | nil =>
    rw [cut?, if_neg hn] at h
    cases h
  | cons c rest ih =>
    rw [List.cons_append, cut?, ← List.cons_append]
    unfold cut? at h
    split at h
    · rename_i hp
      have hle := (List.isPrefixOf_iff_prefix.1 hp).length_le
      have hmore : needle.isPrefixOf (c :: rest ++ more) :=
        List.isPrefixOf_iff_prefix.2
          ((List.isPrefixOf_iff_prefix.1 hp).trans (List.prefix_append ..))
      simp only [Option.some.injEq, Prod.mk.injEq] at h
      obtain ⟨rfl, rfl⟩ := h
      rw [if_pos hmore, List.drop_append_of_le_length hle]
    · rename_i hp
      obtain ⟨sides, hs, e⟩ := Option.map_eq_some_iff.1 h
      simp only [Prod.mk.injEq] at e
      obtain ⟨rfl, rfl⟩ := e
      -- an occurrence that begins here would end after one that begins later
      have hmore : ¬needle.isPrefixOf (c :: rest ++ more) = true := by
        intro hprefix
        have hle : needle.length ≤ (c :: rest).length := by
          simp [eq_append_of_cut? hs]
          omega
        exact hp (List.isPrefixOf_iff_prefix.2 (List.prefix_of_prefix_length_le
          (List.isPrefixOf_iff_prefix.1 hprefix) (List.prefix_append ..) hle))
      rw [if_neg hmore, ih hs]
      rfl

/-- A text occurs in another one exactly if it is a part of it. -/
theorem occursIn_iff {needle s : List Char} : occursIn needle s = true ↔ needle <:+: s := by
  constructor
  · intro h
    obtain ⟨⟨before, after⟩, hcut⟩ := Option.isSome_iff_exists.1 h
    exact ⟨before, after, (eq_append_of_cut? hcut).symm⟩
  · intro h
    induction s with
    | nil =>
      obtain rfl := List.infix_nil.1 h
      rfl
    | cons c rest ih =>
      rw [occursIn, cut?]
      split
      · rfl
      · rename_i hp
        rw [Option.isSome_map]
        exact ih ((List.infix_cons_iff.1 h).resolve_left fun hprefix =>
          hp (List.isPrefixOf_iff_prefix.2 hprefix))

/-- A text does not occur before its first occurrence. -/
theorem not_infix_of_cut? {needle s before after : List Char} (hn : needle ≠ [])
    (h : cut? needle s = some (before, after)) : ¬needle <:+: before := by
  intro hwithin
  obtain ⟨⟨b, a⟩, hcut⟩ := Option.isSome_iff_exists.1 (occursIn_iff.2 hwithin)
  -- an occurrence in `before` would be the first one in the whole text
  have hwhole := cut?_append hn hcut (needle ++ after)
  rw [← List.append_assoc, ← eq_append_of_cut? h, h] at hwhole
  obtain ⟨hbefore, -⟩ := Prod.mk.inj (Option.some.inj hwhole)
  have hlength := congrArg List.length (eq_append_of_cut? hcut)
  have hpos := List.length_pos_iff.2 hn
  rw [List.length_append, List.length_append, hbefore] at hlength
  omega

end Widgetry.Text
