import Widgetry.Instance
import Widgetry.Proofs.Number.IntegerText
import Widgetry.Proofs.Table

/-!
# Pointers into a widget

A pointer is a text of reference tokens, each after a slash. `Resolves` says what it stands for in a
value, as JSON pointers are defined: the text is split at its slashes, in each token `~1` is decoded
to a slash and then `~0` to a tilde, and the decoded tokens are names of fields or indices of items,
one after the other. Inside of a value, pointers are followed in just this way. A pointer into a
widget differs in its first token, which is taken for the name of a property as it stands, tildes
and all.
-/

namespace Widgetry

namespace Json

/-! ## What a pointer stands for -/

/-- A text with each tilde before `code` replaced, together with `code`, by `c`. -/
def replaceEscape (code c : Char) : List Char → List Char
  | x :: y :: rest =>
    if x = '~' ∧ y = code then c :: replaceEscape code c rest
    else x :: replaceEscape code c (y :: rest)
  | rest => rest

/-- What a reference token stands for. -/
def decodeToken (token : List Char) : List Char :=
  replaceEscape '0' '~' (replaceEscape '1' '/' token)

/-- A value has another one under a name: a field of the name, or the item whose index the name
writes in decimal, without a sign or needless zeros. -/
inductive Has : Json → List Char → Json → Prop where
  | field {fields : Fields} {name : List Char} {v : Json}
      (h : fields.get? (String.ofList name) = some v) : Has (.obj fields) name v
  | item {items : List Json} {i : Nat} {v : Json} (h : items[i]? = some v) :
      Has (.arr items) (Nat.toDigits 10 i) v

/-- Reference tokens lead from a value to another one, a step for each. -/
inductive Leads : Json → List (List Char) → Json → Prop where
  | here (v : Json) : Leads v [] v
  | step {v u x : Json} {token : List Char} {tokens : List (List Char)}
      (h : Has v (decodeToken token) u) (more : Leads u tokens x) : Leads v (token :: tokens) x

/-- What a pointer, a text that begins with a slash, stands for in a value. -/
def Resolves (v : Json) (pointer : List Char) (x : Json) : Prop :=
  ∃ tokens, pointer.splitOn '/' = [] :: tokens ∧ Leads v tokens x

/-! ## Pointers are followed as they are defined -/

theorem replaceEscape_cons_of_ne {code c x : Char} (h : x ≠ '~') (rest : List Char) :
    replaceEscape code c (x :: rest) = x :: replaceEscape code c rest := by
  cases rest with
  | nil => rfl
  | cons y rest => rw [replaceEscape, if_neg fun hx => h hx.1]

theorem replaceEscape_escape (code c : Char) (rest : List Char) :
    replaceEscape code c ('~' :: code :: rest) = c :: replaceEscape code c rest := by
  rw [replaceEscape, if_pos ⟨rfl, rfl⟩]

theorem replaceEscape_tilde {code y : Char} (h : y ≠ code) (c : Char) (rest : List Char) :
    replaceEscape code c ('~' :: y :: rest) = '~' :: replaceEscape code c (y :: rest) := by
  rw [replaceEscape, if_neg fun hy => h hy.2]

/-- A replacement changes the beginning of a text only if an escape stands there. -/
theorem exists_replaceEscape_eq_cons (code c y : Char) (rest : List Char) :
    ∃ x tail, replaceEscape code c (y :: rest) = x :: tail ∧ (x = y ∨ x = c) := by
  cases rest with
  | nil => exact ⟨y, [], rfl, Or.inl rfl⟩
  | cons z rest =>
      rw [replaceEscape]
      split
      · exact ⟨c, _, rfl, Or.inr rfl⟩
      · exact ⟨y, _, rfl, Or.inl rfl⟩

/-- One pass that decodes both escapes does what the two passes do. -/
theorem decodeStep_eq (token : List Char) : decodeStep token = decodeToken token := by
  unfold decodeToken
  fun_induction decodeStep token with
  | case1 rest ih =>
      rw [ih, replaceEscape_escape, replaceEscape_cons_of_ne (by decide)]
  | case2 rest ih =>
      rw [ih, replaceEscape_tilde (by decide), replaceEscape_cons_of_ne (x := '0') (by decide),
        replaceEscape_escape]
  | case3 c rest hslash htilde ih =>
      rw [ih]
      by_cases hc : c = '~'
      · subst hc
        cases rest with
        | nil => rfl
        | cons y rest =>
            have hone : y ≠ '1' := fun hy => hslash rest rfl (by rw [hy])
            have hzero : y ≠ '0' := fun hy => htilde rest rfl (by rw [hy])
            rw [replaceEscape_tilde hone]
            -- what the first pass leaves here is no `0` either
            obtain ⟨x, tail, hx, hcases⟩ := exists_replaceEscape_eq_cons '1' '/' y rest
            have hxzero : x ≠ '0' := by
              rcases hcases with rfl | rfl
              · exact hzero
              · decide
            rw [hx, replaceEscape_tilde hxzero]
      · rw [replaceEscape_cons_of_ne hc, replaceEscape_cons_of_ne hc]
  | case4 => rfl

theorem splitSlashes_eq (s : List Char) : splitSlashes s = s.splitOn '/' := by
  induction s with
  | nil => rfl
  | cons c rest ih =>
      obtain ⟨part, parts, hparts⟩ := List.exists_cons_of_ne_nil (List.splitOn_ne_nil '/' rest)
      rw [splitSlashes, ih, List.splitOn_cons_eq_if_modifyHead, hparts]
      by_cases hc : c = '/'
      · simp [hc]
      · simp [hc]

theorem place?_eq_some_iff (name : List Char) (i : Nat) :
    place? name = some i ↔ name = Nat.toDigits 10 i := by
  rw [place?, Option.ite_none_right_eq_some, Option.some.injEq]
  constructor
  · rintro ⟨⟨hne, hdigits, hzero⟩, rfl⟩
    exact (Decimal.toDigits_ofDigits hne hdigits hzero).symm
  · rintro rfl
    refine ⟨⟨Nat.toDigits_ne_nil, ?_, ?_⟩, Decimal.ofDigits_toDigits i⟩
    · exact List.all_eq_true.2 fun c hc => isDigits_toDigits i c hc
    · rcases Nat.eq_zero_or_pos i with rfl | hpos
      · exact Or.inr rfl
      · exact Or.inl (Decimal.head?_toDigits hpos)

theorem step?_eq_some_iff (v : Json) (name : List Char) (u : Json) :
    v.step? name = some u ↔ Has v name u := by
  constructor
  · intro h
    cases v with
    | obj fields => exact .field h
    | arr items =>
        obtain ⟨i, hi, hu⟩ := Option.bind_eq_some_iff.1 h
        obtain rfl := (place?_eq_some_iff name i).1 hi
        exact .item hu
    | null | bool _ | num _ | str _ => cases h
  · rintro (h | h)
    · exact h
    · rw [step?, (place?_eq_some_iff _ _).2 rfl]
      exact h

/-- A path is followed along the names and indices that its parts stand for. -/
theorem follow?_eq_some_iff (v : Json) (path : List (List Char)) (x : Json) :
    v.follow? path = some x ↔ Leads v path x := by
  induction path generalizing v with
  | nil =>
      constructor
      · intro h
        obtain rfl := Option.some.inj h
        exact .here v
      · rintro ⟨⟩
        rfl
  | cons token tokens ih =>
      have hcons : v.follow? (token :: tokens) = (v.step? (decodeStep token)).bind fun u => u.follow? tokens := rfl
      rw [hcons, Option.bind_eq_some_iff]
      constructor
      · rintro ⟨u, hu, hmore⟩
        rw [decodeStep_eq, step?_eq_some_iff] at hu
        exact .step hu ((ih u).1 hmore)
      · rintro (_ | ⟨hu, hmore⟩)
        rw [← decodeStep_eq, ← step?_eq_some_iff] at hu
        exact ⟨_, hu, (ih _).2 hmore⟩

/-! ## Tokens with escapes -/

/-- A token for a text: each tilde of the text is escaped. -/
def escapeTildes (text : List Char) : List Char :=
  text.flatMap fun c => if c = '~' then ['~', '0'] else [c]

theorem decodeToken_escapeTildes (text : List Char) : decodeToken (escapeTildes text) = text := by
  rw [← decodeStep_eq]
  induction text with
  | nil => rfl
  | cons c rest ih =>
      rw [escapeTildes, List.flatMap_cons, ← escapeTildes]
      split
      next hc => rw [hc, List.cons_append, List.singleton_append, decodeStep, ih]
      next hc =>
        rw [List.singleton_append, decodeStep]
        · rw [ih]
        · exact fun _ h => absurd h hc
        · exact fun _ h => absurd h hc

theorem not_mem_escapeTildes {text : List Char} (h : '/' ∉ text) : '/' ∉ escapeTildes text := by
  intro hmem
  obtain ⟨c, hc, hslash⟩ := List.mem_flatMap.1 hmem
  split at hslash
  · simp at hslash
  · exact h (List.mem_singleton.1 hslash ▸ hc)

/-- Without an escape nothing is replaced, and each escape makes a text shorter. -/
theorem length_replaceEscape (code c : Char) (text : List Char) :
    replaceEscape code c text = text ∧ ¬['~', code] <:+: text ∨
      (replaceEscape code c text).length < text.length ∧ ['~', code] <:+: text := by
  fun_induction replaceEscape code c text with
  | case1 x y rest hescape ih =>
      obtain ⟨rfl, rfl⟩ := hescape
      refine Or.inr ⟨?_, (List.prefix_append ['~', y] rest).isInfix⟩
      rcases ih with ⟨heq, -⟩ | ⟨hlt, -⟩
      · rw [heq]
        simp
      · simp only [List.length_cons]
        omega
  | case2 x y rest hescape ih =>
      have hprefix : ¬['~', code] <+: x :: y :: rest := by
        intro h
        obtain ⟨hx, hy⟩ := List.cons_prefix_cons.1 h
        exact hescape ⟨hx.symm, (List.cons_prefix_cons.1 hy).1.symm⟩
      rw [List.infix_cons_iff]
      rcases ih with ⟨heq, hnot⟩ | ⟨hlt, hin⟩
      · exact Or.inl ⟨by rw [heq], fun h => h.elim hprefix hnot⟩
      · exact Or.inr ⟨Nat.succ_lt_succ hlt, Or.inr hin⟩
  | case3 rest hrest =>
      refine Or.inl ⟨rfl, ?_⟩
      intro h
      match rest, hrest, h.length_le with
      | x :: y :: rest, hrest, _ => exact hrest x y rest rfl

theorem decodeToken_eq_self_iff (token : List Char) :
    decodeToken token = token ↔ ¬['~', '1'] <:+: token ∧ ¬['~', '0'] <:+: token := by
  rw [decodeToken]
  rcases length_replaceEscape '1' '/' token with ⟨hone, hnone⟩ | ⟨hone, hnone⟩
  · rw [hone]
    rcases length_replaceEscape '0' '~' token with ⟨hzero, hnzero⟩ | ⟨hzero, hnzero⟩
    · exact iff_of_true hzero ⟨hnone, hnzero⟩
    · exact iff_of_false (fun h => by rw [h] at hzero; omega) fun h => h.2 hnzero
  · refine iff_of_false (fun h => ?_) fun h => h.1 hnone
    have hle : (replaceEscape '0' '~' (replaceEscape '1' '/' token)).length ≤
        (replaceEscape '1' '/' token).length := by
      rcases length_replaceEscape '0' '~' (replaceEscape '1' '/' token) with ⟨heq, -⟩ | ⟨hlt, -⟩
      · rw [heq]
      · exact hlt.le
    rw [h] at hle
    omega

/-! ## Pointers by their first token -/

/-- Some value has something at the end of whatever path. -/
theorem exists_leads (tokens : List (List Char)) : ∃ v, Leads v tokens .null := by
  induction tokens with
  | nil => exact ⟨.null, .here .null⟩
  | cons token tokens ih =>
      obtain ⟨u, hu⟩ := ih
      refine ⟨.obj [(String.ofList (decodeToken token), u)], .step (.field ?_) hu⟩
      exact Table.get?_cons_self _ _ _

theorem splitOn_cons_slash (rest : List Char) :
    ('/' :: rest).splitOn '/' = [] :: rest.splitOn '/' :=
  List.splitOn_append_cons_self_of_not_mem List.not_mem_nil rest

/-- The tokens of a pointer: that up to its second slash, and those after it. -/
theorem splitOn_pointer {first more : List Char} (hfirst : '/' ∉ first)
    (hmore : more = [] ∨ more.head? = some '/') :
    ('/' :: (first ++ more)).splitOn '/' = [] :: first :: (more.splitOn '/').tail := by
  rw [splitOn_cons_slash]
  rcases hmore with rfl | hmore
  · rw [List.append_nil, List.splitOn_eq_singleton hfirst]
    rfl
  · obtain ⟨rest, rfl⟩ := List.head?_eq_some_iff.1 hmore
    rw [List.splitOn_append_cons_self_of_not_mem hfirst, splitOn_cons_slash, List.tail_cons]

theorem resolves_iff {first more : List Char} (hfirst : '/' ∉ first)
    (hmore : more = [] ∨ more.head? = some '/') (fields : Fields) (x : Json) :
    Resolves (.obj fields) ('/' :: (first ++ more)) x ↔
      ∃ u, fields.get? (String.ofList (decodeToken first)) = some u ∧
        Leads u (more.splitOn '/').tail x := by
  rw [Resolves, splitOn_pointer hfirst hmore]
  constructor
  · rintro ⟨tokens, htokens, hleads⟩
    obtain ⟨-, rfl⟩ := List.cons.inj htokens
    cases hleads with
    | step h hleads =>
        cases h with
        | field h => exact ⟨_, h, hleads⟩
  · rintro ⟨u, hu, hleads⟩
    exact ⟨_, rfl, .step (.field hu) hleads⟩

end Json

namespace Instance

open Json

/-- The first token of what comes after the first slash of a pointer. -/
def firstToken (path : List Char) : List Char :=
  path.takeWhile (· ≠ '/')

/-- The slashes and the tokens after the first token. -/
def afterFirst (path : List Char) : List Char :=
  path.dropWhile (· ≠ '/')

theorem firstToken_append_afterFirst (path : List Char) : firstToken path ++ afterFirst path = path :=
  List.takeWhile_append_dropWhile

theorem slash_not_mem_firstToken (path : List Char) : '/' ∉ firstToken path := by
  intro hmem
  simpa using List.mem_takeWhile_imp hmem

theorem head?_afterFirst (path : List Char) :
    afterFirst path = [] ∨ (afterFirst path).head? = some '/' := by
  have hstop := List.head?_dropWhile_not (fun c : Char => decide (c ≠ '/')) path
  rw [afterFirst]
  cases h : path.dropWhile (· ≠ '/') with
  | nil => exact Or.inl rfl
  | cons c rest =>
      rw [h] at hstop
      exact Or.inr (by simpa using hstop)

/-- A pointer into an instance leads from the property that its first token names, as the token
stands, along the other tokens. -/
theorem pointer?_eq_some_iff (w : Instance) (path : List Char) (x : Json) :
    w.pointer? (String.ofList ('/' :: path)) = some x ↔
      ∃ u, w.properties.get? (String.ofList (firstToken path)) = some u ∧
        Leads u ((afterFirst path).splitOn '/').tail x := by
  rw [pointer?, String.toList_ofList, firstToken, afterFirst]
  refine Option.bind_eq_some_iff.trans ?_
  refine exists_congr fun u => and_congr_right fun _ => ?_
  rcases head?_afterFirst path with hnil | hhead
  · rw [afterFirst] at hnil
    rw [hnil]
    exact follow?_eq_some_iff u [] x
  · obtain ⟨rest, hrest⟩ := List.head?_eq_some_iff.1 hhead
    rw [afterFirst] at hrest
    rw [hrest, splitOn_cons_slash, List.tail_cons, ← splitSlashes_eq, ← follow?_eq_some_iff]
    rfl

/-- **Pointers into an instance.** A pointer stands for the value that it leads to once the tildes of
its first token are escaped. So it is resolved as it stands, in all instances, exactly if there is
no escape in its first token. -/
theorem pointer?_resolves_iff (path : List Char) :
    (∀ (w : Instance) (x : Json), w.pointer? (String.ofList ('/' :: path)) = some x ↔
      Resolves (.obj w.properties)
        ('/' :: (escapeTildes (firstToken path) ++ afterFirst path)) x) ∧
    ((∀ (w : Instance) (x : Json), w.pointer? (String.ofList ('/' :: path)) = some x ↔
        Resolves (.obj w.properties) ('/' :: path) x) ↔
      ¬['~', '1'] <:+: firstToken path ∧ ¬['~', '0'] <:+: firstToken path) := by
  have hfirst := slash_not_mem_firstToken path
  have hmore := head?_afterFirst path
  have hresolves (v x : Json) : Resolves v ('/' :: path) x ↔
      Resolves v ('/' :: (firstToken path ++ afterFirst path)) x := by
    rw [firstToken_append_afterFirst]
  refine ⟨fun w x => ?_, ?_⟩
  · rw [pointer?_eq_some_iff, resolves_iff (not_mem_escapeTildes hfirst) hmore,
      decodeToken_escapeTildes]
  · rw [← decodeToken_eq_self_iff]
    constructor
    · intro h
      obtain ⟨u, hu⟩ := exists_leads ((afterFirst path).splitOn '/').tail
      let w : Instance :=
        ⟨⟨0⟩, "", .input, none, [(String.ofList (decodeToken (firstToken path)), u)]⟩
      have hread : Resolves (.obj w.properties) ('/' :: path) .null := by
        rw [hresolves, resolves_iff hfirst hmore]
        exact ⟨u, Table.get?_cons_self _ _ _, hu⟩
      obtain ⟨u', hu', -⟩ := (pointer?_eq_some_iff w path .null).1 ((h w .null).2 hread)
      -- the only property is the one that the decoded token names
      by_contra hne
      rw [Table.get?_cons_of_ne fun heq => hne (String.ofList_injective heq)] at hu'
      cases hu'
    · intro hself w x
      rw [pointer?_eq_some_iff, hresolves, resolves_iff hfirst hmore, hself]

/-- The property `a/b` is there, and the pointer whose token decodes to its name misses it. -/
theorem pointer?_misses_property :
    let w : Instance := ⟨⟨1⟩, "Frame", .iframe, none, [("a/b", .int 1)]⟩
    w.pointer? "/a~1b" = none ∧ Resolves (.obj w.properties) "/a~1b".toList (.int 1) := by
  intro w
  refine ⟨by decide, [['a', '~', '1', 'b']], by decide, .step (.field ?_) (.here _)⟩
  exact Table.get?_cons_self _ _ _

end Instance

end Widgetry
