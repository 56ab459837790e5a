import Mathlib
import Widgetry.Pattern

/-!
# How the source of a pattern is read

A source between slashes, with a word of flags after the last one, asks for the expression between
them; every other source asks for itself. What the source asks for does not depend on which
expressions compile. If the text that it asks for does not compile, the whole source stands for
itself, slashes and flags with it.
-/

namespace Widgetry

namespace Text

theorem of_cutLast?_eq_some {mark : Char} {s before after : List Char}
    (h : cutLast? mark s = some (before, after)) : s = before ++ mark :: after ∧ mark ∉ after := by
  have hparts : s.reverse.takeWhile (· ≠ mark) ++ s.reverse.dropWhile (· ≠ mark) = s.reverse :=
    List.takeWhile_append_dropWhile
  have hstop := List.head?_dropWhile_not (fun c : Char => decide (c ≠ mark)) s.reverse
  rw [cutLast?] at h
  split at h
  · rename_i c rest hdrop
    rw [hdrop] at hparts hstop
    obtain rfl : c = mark := by simpa using hstop
    obtain ⟨rfl, hafter⟩ := Prod.mk.inj (Option.some.inj h)
    rw [← List.reverse_inj, List.reverse_reverse] at hafter
    rw [hafter] at hparts
    refine ⟨?_, fun hmem => ?_⟩
    · rw [← List.reverse_inj, ← hparts]
      simp
    · rw [← List.mem_reverse, ← hafter] at hmem
      simpa using List.mem_takeWhile_imp hmem
  · cases h

/-- A text is cut where a character stands after which it does not come again. -/
theorem cutLast?_eq_some_iff {mark : Char} {s before after : List Char} :
    cutLast? mark s = some (before, after) ↔ s = before ++ mark :: after ∧ mark ∉ after := by
  refine ⟨of_cutLast?_eq_some, ?_⟩
  rintro ⟨rfl, hmark⟩
  have hall : ∀ c ∈ after.reverse, decide (c ≠ mark) = true := by
    intro c hc
    have hne : c ≠ mark := fun h => hmark (h ▸ List.mem_reverse.1 hc)
    exact decide_eq_true hne
  have hreverse : (before ++ mark :: after).reverse = after.reverse ++ mark :: before.reverse := by
    simp
  rw [cutLast?, hreverse, List.dropWhile_append_of_pos hall, List.takeWhile_append_of_pos hall]
  simp

end Text

namespace PatternFlags

/-- The letters that stand for flags. -/
def letters : List Char := ['g', 'i', 'm', 's', 'u', 'y']

/-- Whether the flag of a letter is set. -/
def has (flags : PatternFlags) : Char → Bool
  | 'g' => flags.everywhere
  | 'i' => flags.ignoreCase
  | 'm' => flags.multiLine
  | 's' => flags.dotAll
  | 'u' => flags.unicode
  | 'y' => flags.sticky
  | _ => false

/-- A word of flags: letters of flags, of which none comes twice. -/
def IsWord (word : List Char) : Prop :=
  (∀ c ∈ word, c ∈ letters) ∧ word.Nodup

theorem eq_of_has {flags flags' : PatternFlags} (h : ∀ c, flags.has c = flags'.has c) :
    flags = flags' := by
  obtain ⟨g, i, m, s, u, y⟩ := flags
  obtain ⟨g', i', m', s', u', y'⟩ := flags'
  obtain rfl : g = g' := h 'g'
  obtain rfl : i = i' := h 'i'
  obtain rfl : m = m' := h 'm'
  obtain rfl : s = s' := h 's'
  obtain rfl : u = u' := h 'u'
  obtain rfl : y = y' := h 'y'
  rfl

/-- Setting the flag of a letter: the flag was not set before, and no other one changes. -/
theorem of_set?_eq_some {flags flags' : PatternFlags} {c : Char}
    (h : flags.set? c = some flags') :
    c ∈ letters ∧ flags.has c = false ∧ ∀ d, flags'.has d = true ↔ flags.has d = true ∨ d = c := by
  unfold set? at h
  split at h
  case h_7 => cases h
  -- the six letters differ in the flag only
  all_goals
    rw [Option.ite_none_left_eq_some, Option.some.injEq] at h
    obtain ⟨hnew, rfl⟩ := h
    refine ⟨by decide, Bool.eq_false_of_not_eq_true hnew, fun d => ?_⟩
    unfold has
    split <;> simp_all

/-- The flag of a letter can be set if it is not set yet. -/
theorem exists_set? {flags : PatternFlags} {c : Char} (hc : c ∈ letters)
    (hnew : flags.has c = false) : ∃ flags', flags.set? c = some flags' := by
  simp only [letters, List.mem_cons, List.not_mem_nil, or_false] at hc
  rcases hc with rfl | rfl | rfl | rfl | rfl | rfl
  all_goals exact ⟨_, if_neg (ne_true_of_eq_false hnew)⟩

/-- What letters set: they are a word of flags that are not set before, and no other flag
changes. -/
theorem of_foldlM_set?_eq_some {flags flags' : PatternFlags} {word : List Char}
    (h : word.foldlM set? flags = some flags') :
    IsWord word ∧ (∀ c ∈ word, flags.has c = false) ∧
      ∀ d, flags'.has d = true ↔ flags.has d = true ∨ d ∈ word := by
  induction word generalizing flags with
  | nil =>
      obtain rfl := Option.some.inj h
      exact ⟨⟨by simp, List.nodup_nil⟩, by simp, by simp⟩
  | cons c rest ih =>
      rw [List.foldlM_cons, Option.bind_eq_bind, Option.bind_eq_some_iff] at h
      obtain ⟨mid, hset, hrest⟩ := h
      obtain ⟨hc, hnew, hmid⟩ := of_set?_eq_some hset
      obtain ⟨⟨hletters, hnodup⟩, hfree, hflags⟩ := ih hrest
      have hother : ∀ d ∈ rest, flags.has d = false ∧ d ≠ c := by
        intro d hd
        have hfreed := hfree d hd
        rw [← Bool.not_eq_true, hmid, not_or, Bool.not_eq_true] at hfreed
        exact hfreed
      refine ⟨⟨?_, ?_⟩, ?_, fun d => ?_⟩
      · exact List.forall_mem_cons.2 ⟨hc, hletters⟩
      · exact List.nodup_cons.2 ⟨fun hmem => (hother c hmem).2 rfl, hnodup⟩
      · exact List.forall_mem_cons.2 ⟨hnew, fun d hd => (hother d hd).1⟩
      · rw [hflags, hmid, or_assoc, List.mem_cons]

/-- The letters of a word can be set one after the other, if none of their flags is set. -/
theorem exists_foldlM_set? {flags : PatternFlags} {word : List Char} (h : IsWord word)
    (hfree : ∀ c ∈ word, flags.has c = false) : ∃ flags', word.foldlM set? flags = some flags' := by
  induction word generalizing flags with
  | nil => exact ⟨flags, rfl⟩
  | cons c rest ih =>
      obtain ⟨hc, hletters⟩ := List.forall_mem_cons.1 h.1
      obtain ⟨hnew, hrest⟩ := List.forall_mem_cons.1 hfree
      obtain ⟨hnot, hnodup⟩ := List.nodup_cons.1 h.2
      obtain ⟨mid, hset⟩ := exists_set? hc hnew
      have hmid : ∀ d ∈ rest, mid.has d = false := by
        intro d hd
        have hne : d ≠ c := fun heq => hnot (heq ▸ hd)
        rw [← Bool.not_eq_true, (of_set?_eq_some hset).2.2, hrest d hd]
        simp [hne]
      rw [List.foldlM_cons, hset]
      exact ih ⟨hletters, hnodup⟩ hmid

theorem has_none (c : Char) : has {} c = false := by
  unfold has
  split <;> rfl

theorem isSome_ofSuffix?_iff (word : List Char) : (ofSuffix? word).isSome = true ↔ IsWord word := by
  rw [Option.isSome_iff_exists]
  constructor
  · rintro ⟨flags, h⟩
    exact (of_foldlM_set?_eq_some h).1
  · exact fun h => exists_foldlM_set? h fun c _ => has_none c

/-- A suffix sets the flags of its letters. -/
theorem has_of_ofSuffix? {word : List Char} {flags : PatternFlags}
    (h : ofSuffix? word = some flags) (c : Char) : flags.has c = true ↔ c ∈ word := by
  rw [(of_foldlM_set?_eq_some h).2.2, has_none]
  simp

/-- The order of the letters makes no difference. -/
theorem ofSuffix?_perm {word word' : List Char} (hword : IsWord word) (h : word.Perm word') :
    ofSuffix? word' = ofSuffix? word := by
  have hword' : IsWord word' := ⟨fun c hc => hword.1 c (h.mem_iff.2 hc), h.nodup_iff.1 hword.2⟩
  obtain ⟨flags, hflags⟩ := Option.isSome_iff_exists.1 ((isSome_ofSuffix?_iff word).2 hword)
  obtain ⟨flags', hflags'⟩ := Option.isSome_iff_exists.1 ((isSome_ofSuffix?_iff word').2 hword')
  rw [hflags, hflags', Option.some.injEq]
  refine eq_of_has fun c => ?_
  rw [Bool.eq_iff_iff, has_of_ofSuffix? hflags, has_of_ofSuffix? hflags']
  exact h.mem_iff.symm

/-- The directive for a word of flags: those of the letters `i`, `m` and `s` that are in it. -/
def directiveOf (word : List Char) : List Char :=
  let inner := ['i', 'm', 's'].filter (· ∈ word)
  if inner = [] then [] else ['(', '?'] ++ inner ++ [')']

theorem inner_eq_filter (flags : PatternFlags) : flags.inner = ['i', 'm', 's'].filter flags.has := by
  obtain ⟨g, i, m, s, u, y⟩ := flags
  cases i <;> cases m <;> cases s <;> rfl

theorem directive_of_ofSuffix? {word : List Char} {flags : PatternFlags}
    (h : ofSuffix? word = some flags) : flags.directive = directiveOf word := by
  have hhas : flags.has = fun c => decide (c ∈ word) := by
    funext c
    rw [Bool.eq_iff_iff, has_of_ofSuffix? h, decide_eq_true_iff]
  rw [directive, inner_eq_filter, hhas, directiveOf]

end PatternFlags

namespace Pattern

open PatternFlags

/-- A source is a body that is not empty between slashes, and a word of flags after the last of
them. The body may have slashes of its own. -/
structure IsEnclosed (source body word : List Char) : Prop where
  source_eq : source = '/' :: (body ++ '/' :: word)
  body_ne_nil : body ≠ []
  not_mem : '/' ∉ word
  isWord : IsWord word

theorem delimited?_eq_some_iff {source body : List Char} {flags : PatternFlags} :
    delimited? source = some (body, flags) ↔
      ∃ word, IsEnclosed source body word ∧ ofSuffix? word = some flags := by
  unfold delimited?
  split
  · rename_i rest
    constructor
    · intro h
      obtain ⟨⟨b, word⟩, hcut, h⟩ := Option.bind_eq_some_iff.1 h
      dsimp only at h
      split at h
      · cases h
      · rename_i hbody
        obtain ⟨flags', hflags, h⟩ := Option.map_eq_some_iff.1 h
        obtain ⟨rfl, rfl⟩ := Prod.mk.inj h
        obtain ⟨hrest, hword⟩ := Text.cutLast?_eq_some_iff.1 hcut
        have hisWord := (isSome_ofSuffix?_iff word).1 (Option.isSome_of_eq_some hflags)
        exact ⟨word, ⟨by rw [hrest], hbody, hword, hisWord⟩, hflags⟩
    · rintro ⟨word, ⟨hsource, hbody, hword, -⟩, hflags⟩
      have hcut := Text.cutLast?_eq_some_iff.2 ⟨(List.cons.inj hsource).2, hword⟩
      rw [hcut, Option.bind_some]
      dsimp only
      rw [if_neg hbody, hflags, Option.map_some]
  · rename_i hslash
    refine iff_of_false (fun h => by cases h) ?_
    rintro ⟨word, henclosed, -⟩
    exact hslash _ henclosed.source_eq

theorem request_of_isEnclosed {source body word : List Char} (h : IsEnclosed source body word) :
    request source = (directiveOf word ++ body, decide ('y' ∈ word)) := by
  obtain ⟨flags, hflags⟩ := Option.isSome_iff_exists.1 ((isSome_ofSuffix?_iff word).2 h.isWord)
  have hsticky : flags.sticky = decide ('y' ∈ word) := by
    rw [Bool.eq_iff_iff, decide_eq_true_iff]
    exact has_of_ofSuffix? hflags 'y'
  rw [request, delimited?_eq_some_iff.2 ⟨word, h, hflags⟩]
  dsimp only
  rw [directive_of_ofSuffix? hflags, hsticky]

theorem request_of_not_isEnclosed {source : List Char}
    (h : ∀ body word, ¬IsEnclosed source body word) : request source = (source, false) := by
  rw [request]
  split
  · rename_i body flags hsome
    obtain ⟨word, henclosed, -⟩ := delimited?_eq_some_iff.1 hsome
    exact absurd henclosed (h body word)
  · rfl

/-- How the pattern of a source is compiled, and how it matches if it does not compile. -/
structure IsPatternOf (compile : String → Option Regex.Compiled) (source : String) (p : Pattern) :
    Prop where
  source_eq : p.source = source
  enclosed : ∀ body word, IsEnclosed source.toList body word →
    p.expression = compile (String.ofList (directiveOf word ++ body)) ∧
      (p.sticky = true ↔ 'y' ∈ word)
  bare : (∀ body word, ¬IsEnclosed source.toList body word) →
    p.expression = compile source ∧ p.sticky = false
  literal : p.expression = none → ∀ text, p.accepts text = true ↔
    if p.sticky then source.toList <+: text.toList else source.toList <:+: text.toList
  itself : p.expression = none → p.accepts source = true

/-- A pattern without an expression matches the texts that its source begins, if it is sticky, or is
a part of. -/
theorem accepts_of_none {p : Pattern} (h : p.expression = none) (text : String) :
    p.accepts text = true ↔
      if p.sticky then p.source.toList <+: text.toList else p.source.toList <:+: text.toList := by
  rw [accepts, h]
  cases p.sticky with
  | false => exact Text.occursIn_iff
  | true => exact List.isPrefixOf_iff_prefix

theorem eq_of_ofSource? {compile : String → Option Regex.Compiled} {source : String} {p : Pattern}
    (h : ofSource? compile source = some p) :
    p = ⟨source, compile (String.ofList (request source.toList).1), (request source.toList).2⟩ := by
  rw [ofSource?, Option.ite_none_left_eq_some] at h
  exact (Option.some.inj h.2).symm

theorem isPatternOf_of_ofSource? {compile : String → Option Regex.Compiled} {source : String}
    {p : Pattern} (h : ofSource? compile source = some p) : IsPatternOf compile source p where
  source_eq := by rw [eq_of_ofSource? h]
  enclosed := by
    intro body word henclosed
    rw [eq_of_ofSource? h, request_of_isEnclosed henclosed, decide_eq_true_iff]
    exact ⟨rfl, Iff.rfl⟩
  bare := by
    intro hbare
    rw [eq_of_ofSource? h, request_of_not_isEnclosed hbare, String.ofList_toList]
    exact ⟨rfl, rfl⟩
  literal := by
    intro hnone text
    rw [accepts_of_none hnone, eq_of_ofSource? h]
  itself := by
    intro hnone
    rw [accepts_of_none hnone, eq_of_ofSource? h]
    split
    · exact List.prefix_rfl
    · exact List.infix_rfl

/-- **How patterns are written.** Whatever compiles, every source but the empty one has a pattern.
It is compiled from the body between slashes, after the directive for the flags, or as it stands if
it is not of this form. A word is one of flags exactly if its letters are those of flags and none
comes twice, and its order makes no difference. A pattern that does not compile matches its source
where it stands, so it matches its source. -/
theorem ofSource?_isPatternOf (compile : String → Option Regex.Compiled) (source : String) :
    (ofSource? compile source = none ↔ source = "") ∧
    (∀ word, (ofSuffix? word).isSome = true ↔ IsWord word) ∧
    (∀ word word', IsWord word → word.Perm word' → ofSuffix? word' = ofSuffix? word) ∧
    ∀ p, ofSource? compile source = some p → IsPatternOf compile source p :=
  ⟨ofSource?_eq_none_iff compile source, isSome_ofSuffix?_iff, fun _ _ => ofSuffix?_perm,
    fun _ => isPatternOf_of_ofSource?⟩

/-- A source with a slash in its body and two flags, whose body is no expression. -/
theorem ofSource?_isPatternOf_unclosed :
    ∃ p, ofSource? Regex.compile? "/(a/b/iy" = some p ∧ p.expression = none ∧
      IsPatternOf Regex.compile? "/(a/b/iy" p ∧
      IsEnclosed "/(a/b/iy".toList "(a/b".toList "iy".toList ∧
      ofSuffix? ['y', 'i'] = ofSuffix? ['i', 'y'] := by
  obtain ⟨-, hwords, hperm, hpattern⟩ := ofSource?_isPatternOf Regex.compile? "/(a/b/iy"
  have hword : IsWord ['i', 'y'] := (hwords _).1 (by decide)
  have hrequest : request "/(a/b/iy".toList = ("(?i)(a/b".toList, true) := by decide +kernel
  have hcompile : Regex.compile? "(?i)(a/b" = none := by cbv
  have hread : ofSource? Regex.compile? "/(a/b/iy" = some ⟨"/(a/b/iy", none, true⟩ := by
    rw [ofSource?, if_neg (by decide), hrequest]
    dsimp only
    rw [String.ofList_toList, hcompile]
  exact ⟨_, hread, rfl, hpattern _ hread, ⟨rfl, by decide, by decide, hword⟩,
    hperm _ _ hword (.swap _ _ _)⟩

end Pattern

end Widgetry
