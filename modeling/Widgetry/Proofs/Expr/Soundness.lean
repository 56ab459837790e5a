import Widgetry.Proofs.Expr.Grammar

/-!
# What is read has a derivation

Whatever the reader accepts, the grammar derives: each reading function takes lexemes from the front
whose tokens derive the tree that it gives, by a derivation that needs no more than the budget. The
functions that go on with a chain extend a derivation of what has been read of it.
-/

namespace Widgetry.Expr

/-- The lexemes before `rest` derive a phrase within a budget. -/
def Derived (p : Phrase) (budget : Nat) (lexemes rest : List Lexeme) : Prop :=
  ∃ taken, lexemes = taken ++ rest ∧
    ∃ d : Derivation p (taken.map Lexeme.token), d.need ≤ budget

theorem bind_eq_ok_iff {ε α β : Type} {x : Except ε α} {f : α → Except ε β} {b : β} :
    (x >>= f) = .ok b ↔ ∃ a, x = .ok a ∧ f a = .ok b := by
  cases x with
  | error e => simp [bind, Except.bind]
  | ok a => simp [bind, Except.bind]

theorem bind_eq_error_iff {ε α β : Type} {x : Except ε α} {f : α → Except ε β} {e : ε} :
    (x >>= f) = .error e ↔ x = .error e ∨ ∃ a, x = .ok a ∧ f a = .error e := by
  cases x with
  | error e' => simp [bind, Except.bind]
  | ok a => simp [bind, Except.bind]

theorem eq_cons_of_takeMark? {mark : Mark} {lexemes rest : List Lexeme}
    (h : takeMark? mark lexemes = some rest) :
    ∃ lexeme, lexeme.token = .mark mark ∧ lexemes = lexeme :: rest := by
  unfold takeMark? at h
  split at h
  · rename_i m text offset tail
    split at h
    · rename_i hm
      rw [Option.some.injEq] at h
      exact ⟨⟨.mark m, text, offset⟩, by rw [hm], by rw [h]⟩
    · simp at h
  · simp at h

theorem eq_cons_of_takeOperator? {operators : List (Mark × BinaryOp)} {op : BinaryOp}
    {lexemes rest : List Lexeme} (h : takeOperator? operators lexemes = some (op, rest)) :
    ∃ mark lexeme, (mark, op) ∈ operators ∧ lexeme.token = .mark mark ∧
      lexemes = lexeme :: rest := by
  unfold takeOperator? at h
  split at h
  · rename_i m text offset tail
    obtain ⟨⟨mark, op'⟩, hfind, hentry⟩ := Option.map_eq_some_iff.mp h
    obtain ⟨rfl, rfl⟩ := Prod.mk.inj hentry
    have hm : mark = m := by simpa using List.find?_some hfind
    exact ⟨mark, ⟨.mark m, text, offset⟩, List.mem_of_find?_eq_some hfind, by rw [hm], rfl⟩
  · simp at h

theorem expect_eq_ok_iff {finish : Nat} {mark : Mark} {lexemes rest : List Lexeme} :
    expect finish mark lexemes = .ok rest ↔ takeMark? mark lexemes = some rest := by
  unfold expect
  split <;> rename_i h <;> simp [h, failAt]

theorem failAt_ne_ok {α : Type} {finish : Nat} {lexemes : List Lexeme} {cause : SyntaxError}
    {a : α} : failAt finish lexemes cause ≠ .ok a := by
  simp [failAt]

/-- What holds of every reading of a phrase: the lexemes that it takes derive its tree. -/
def ReadSoundly (p : Expr → Phrase) (budget : Nat) (lexemes : List Lexeme) (r : Reading) : Prop :=
  ∀ e rest, r = .ok (e, rest) → Derived (p e) budget lexemes rest

/-- What holds of every reading that goes on with a chain after `left`: the lexemes that it takes
extend every derivation of `left` that the whole budget, with the units that its links hold,
allows. -/
def ExtendedSoundly (p : Expr → Phrase) (left : Expr) (budget : Nat) (lexemes : List Lexeme)
    (r : Reading) : Prop :=
  ∀ ts (l : Derivation (p left) ts), l.need ≤ l.links + budget → ∀ e rest, r = .ok (e, rest) →
    ∃ taken, lexemes = taken ++ rest ∧
      ∃ d : Derivation (p e) (ts ++ taken.map Lexeme.token), d.need ≤ l.links + budget

/-- What holds of every reading of arguments: the lexemes up to the closing parenthesis derive
them. -/
def ArgumentsSoundly (budget : Nat) (lexemes : List Lexeme)
    (r : Except ExprError (List Expr × List Lexeme)) : Prop :=
  ∀ es rest, r = .ok (es, rest) → ∃ close, close.token = .mark .closeParen ∧
    Derived (.arguments es) budget lexemes (close :: rest)

theorem readSoundly_failAt {p : Expr → Phrase} {finish budget : Nat} {lexemes rest : List Lexeme}
    {cause : SyntaxError} : ReadSoundly p budget lexemes (failAt finish rest cause) :=
  fun _ _ h => absurd h failAt_ne_ok

theorem extendedSoundly_failAt {p : Expr → Phrase} {left : Expr} {finish budget : Nat}
    {lexemes rest : List Lexeme} {cause : SyntaxError} :
    ExtendedSoundly p left budget lexemes (failAt finish rest cause) :=
  fun _ _ _ _ _ h => absurd h failAt_ne_ok

/-- A single lexeme that is a phrase. -/
theorem readSoundly_singleton {p : Expr → Phrase} {budget : Nat} {lexeme : Lexeme}
    {rest : List Lexeme} {e : Expr} (d : Derivation (p e) [lexeme.token]) (hd : d.need = 0) :
    ReadSoundly p budget (lexeme :: rest) (.ok (e, rest)) := by
  intro e' rest' h
  obtain ⟨rfl, rfl⟩ := Prod.mk.inj (Except.ok.inj h)
  exact ⟨[lexeme], rfl, d, by omega⟩

/-- A reading that leaves the lexemes alone extends a chain by nothing. -/
theorem extendedSoundly_ok {p : Expr → Phrase} {left : Expr} {budget : Nat}
    {lexemes : List Lexeme} : ExtendedSoundly p left budget lexemes (.ok (left, lexemes)) := by
  intro ts l hl e rest h
  obtain ⟨rfl, rfl⟩ := Prod.mk.inj (Except.ok.inj h)
  exact ⟨[], rfl, by rw [List.map_nil, List.append_nil]; exact ⟨l, hl⟩⟩

/-- One link more, and then the rest of the chain: the derivation of `left` becomes one of `left'`,
whose last link holds a unit. -/
theorem ExtendedSoundly.link {p : Expr → Phrase} {left left' : Expr} {budget : Nat}
    {lexemes : List Lexeme} {r : Reading} (h : ExtendedSoundly p left' budget lexemes r)
    (taken : List Lexeme)
    (hlink : ∀ ts (l : Derivation (p left) ts), l.need ≤ l.links + (budget + 1) →
      ∃ l' : Derivation (p left') (ts ++ taken.map Lexeme.token),
        l'.links = l.links + 1 ∧ l'.need ≤ l.links + (budget + 1)) :
    ExtendedSoundly p left (budget + 1) (taken ++ lexemes) r := by
  intro ts l hl e rest hr
  obtain ⟨l', hlinks, hneed⟩ := hlink ts l hl
  obtain ⟨more, rfl, d, hd⟩ := h _ l' (by omega) e rest hr
  refine ⟨taken ++ more, by simp, ?_⟩
  rw [List.map_append, ← List.append_assoc]
  exact ⟨d, by omega⟩

/-- A reading of an operand and of the chain after it. -/
theorem ReadSoundly.bind {p q : Expr → Phrase} {budget : Nat} {lexemes : List Lexeme} {r : Reading}
    {f : Expr → List Lexeme → Reading} (hr : ReadSoundly q budget lexemes r)
    (hstart : ∀ e ts (d : Derivation (q e) ts),
      ∃ d' : Derivation (p e) ts, d'.links = 0 ∧ d'.need = d.need)
    (hf : ∀ left rest, ExtendedSoundly p left budget rest (f left rest)) :
    ReadSoundly p budget lexemes (r >>= fun read => f read.1 read.2) := by
  intro e rest h
  obtain ⟨⟨left, rest₁⟩, hleft, h₁⟩ := bind_eq_ok_iff.mp h
  obtain ⟨ls, rfl, d, hd⟩ := hr left rest₁ hleft
  obtain ⟨l, hlinks, hneed⟩ := hstart _ _ d
  obtain ⟨rs, rfl, d', hd'⟩ := hf left rest₁ _ l (by omega) e rest h₁
  refine ⟨ls ++ rs, by simp, ?_⟩
  rw [List.map_append]
  exact ⟨d', by omega⟩

section

variable {finish budget : Nat} {lexemes : List Lexeme}

theorem readSoundly_conditional
    (hb : ReadSoundly (.binary operatorLevels) budget lexemes
      (readBinary finish budget operatorLevels lexemes))
    (hc : ∀ rest, ReadSoundly .conditional budget rest (readConditional finish budget rest)) :
    ReadSoundly .conditional (budget + 1) lexemes
      (readConditional finish (budget + 1) lexemes) := by
  intro e rest h
  rw [readConditional] at h
  obtain ⟨⟨condition, rest₁⟩, hcondition, h₁⟩ := bind_eq_ok_iff.mp h
  obtain ⟨cs, rfl, c, hcneed⟩ := hb condition rest₁ hcondition
  dsimp only at h₁
  split at h₁
  · obtain ⟨rfl, rfl⟩ := Prod.mk.inj (Except.ok.inj h₁)
    exact ⟨cs, rfl, .operand c, by simp only [Derivation.need]; omega⟩
  · rename_i rest₂ hmark
    obtain ⟨question, hquestion, rfl⟩ := eq_cons_of_takeMark? hmark
    obtain ⟨⟨yes, rest₃⟩, hyes, h₂⟩ := bind_eq_ok_iff.mp h₁
    obtain ⟨rest₄, hmark, h₃⟩ := bind_eq_ok_iff.mp h₂
    obtain ⟨colon, hcolon, rfl⟩ := eq_cons_of_takeMark? (expect_eq_ok_iff.mp hmark)
    obtain ⟨⟨no, rest₅⟩, hno, h₄⟩ := bind_eq_ok_iff.mp h₃
    obtain ⟨rfl, rfl⟩ := Prod.mk.inj (Except.ok.inj h₄)
    obtain ⟨ys, rfl, y, hyneed⟩ := hc _ yes _ hyes
    obtain ⟨ns, rfl, n, hnneed⟩ := hc _ no _ hno
    refine ⟨cs ++ question :: (ys ++ colon :: ns), by simp, ?_⟩
    have htokens : (cs ++ question :: (ys ++ colon :: ns)).map Lexeme.token =
        cs.map Lexeme.token ++ .mark .question ::
          (ys.map Lexeme.token ++ .mark .colon :: ns.map Lexeme.token) := by
      simp [hquestion, hcolon]
    rw [htokens]
    exact ⟨.choice c y n, by simp only [Derivation.need]; omega⟩

theorem readSoundly_binary_nil (h : ReadSoundly .unary budget lexemes
      (readUnary finish budget lexemes)) :
    ReadSoundly (.binary []) budget lexemes (readBinary finish budget [] lexemes) := by
  intro e rest hr
  rw [readBinary] at hr
  obtain ⟨taken, rfl, d, hd⟩ := h e rest hr
  exact ⟨taken, rfl, .single d, hd⟩

theorem readSoundly_binary_cons {operators : List (Mark × BinaryOp)}
    {tighter : List (List (Mark × BinaryOp))}
    (ht : ReadSoundly (.binary tighter) budget lexemes (readBinary finish budget tighter lexemes))
    (hc : ∀ left rest, ExtendedSoundly (.binary (operators :: tighter)) left budget rest
      (readChain finish budget operators tighter left rest)) :
    ReadSoundly (.binary (operators :: tighter)) budget lexemes
      (readBinary finish budget (operators :: tighter) lexemes) := by
  rw [readBinary]
  exact ht.bind (fun e ts d => ⟨.tighter d, rfl, rfl⟩) hc

theorem extendedSoundly_chain {operators : List (Mark × BinaryOp)}
    {tighter : List (List (Mark × BinaryOp))} {left : Expr} {op : BinaryOp} {rest : List Lexeme}
    (hop : takeOperator? operators lexemes = some (op, rest))
    (ht : ReadSoundly (.binary tighter) budget rest (readBinary finish budget tighter rest))
    (hc : ∀ right rest, ExtendedSoundly (.binary (operators :: tighter)) (.binary op left right)
      budget rest (readChain finish budget operators tighter (.binary op left right) rest)) :
    ExtendedSoundly (.binary (operators :: tighter)) left (budget + 1) lexemes
      (readChain finish (budget + 1) operators tighter left lexemes) := by
  intro ts l hl e rest' h
  rw [readChain, hop] at h
  obtain ⟨⟨right, rest₁⟩, hright, h₁⟩ := bind_eq_ok_iff.mp h
  obtain ⟨rs, rfl, r, hr⟩ := ht right rest₁ hright
  obtain ⟨mark, lexeme, hmem, htoken, rfl⟩ := eq_cons_of_takeOperator? hop
  refine (hc right rest₁).link (lexeme :: rs) (fun us l' hl' => ?_) ts l hl e rest' h₁
  rw [List.map_cons, htoken]
  exact ⟨.chain l' hmem r, rfl, by simp only [Derivation.need]; omega⟩

theorem readSoundly_prefixed {mark : Mark} {text : List Char} {offset : Nat} {op : UnaryOp}
    (hop : prefixOp? mark = some op)
    (h : ReadSoundly .unary budget lexemes (readUnary finish budget lexemes)) :
    ReadSoundly .unary (budget + 1) (⟨.mark mark, text, offset⟩ :: lexemes)
      (readUnary finish (budget + 1) (⟨.mark mark, text, offset⟩ :: lexemes)) := by
  intro e rest hr
  rw [readUnary, hop] at hr
  obtain ⟨⟨operand, rest₁⟩, hoperand, h₁⟩ := bind_eq_ok_iff.mp hr
  obtain ⟨rfl, rfl⟩ := Prod.mk.inj (Except.ok.inj h₁)
  obtain ⟨taken, rfl, d, hd⟩ := h operand rest₁ hoperand
  exact ⟨⟨.mark mark, text, offset⟩ :: taken, rfl, .prefixed hop d, Nat.succ_le_succ hd⟩

theorem ReadSoundly.plain {r : Reading} (h : ReadSoundly .linked budget lexemes r) :
    ReadSoundly .unary budget lexemes r := by
  intro e rest hr
  obtain ⟨taken, rfl, d, hd⟩ := h e rest hr
  exact ⟨taken, rfl, .plain d, hd⟩

theorem readSoundly_postfix
    (hp : ReadSoundly .primary budget lexemes (readPrimary finish budget lexemes))
    (hl : ∀ operand rest, ExtendedSoundly .linked operand budget rest
      (readLinks finish budget operand rest)) :
    ReadSoundly .linked budget lexemes (readPostfix finish budget lexemes) := by
  rw [readPostfix]
  exact hp.bind (fun e ts d => ⟨.unlinked d, rfl, rfl⟩) hl

theorem extendedSoundly_member {operand : Expr} {name : String} {dot ident : Lexeme}
    (hdot : dot.token = .mark .dot) (hident : ident.token = .ident name)
    (h : ExtendedSoundly .linked (.member operand name) budget lexemes
      (readLinks finish budget (.member operand name) lexemes)) :
    ExtendedSoundly .linked operand (budget + 1) (dot :: ident :: lexemes)
      (readLinks finish (budget + 1) operand (dot :: ident :: lexemes)) := by
  obtain ⟨_, _, _⟩ := dot
  obtain ⟨_, _, _⟩ := ident
  subst hdot hident
  rw [readLinks]
  refine h.link [_, _] fun us l hl => ⟨.member l name, rfl, ?_⟩
  simp only [Derivation.need]
  omega

theorem extendedSoundly_index {operand : Expr} {bracket : Lexeme}
    (hbracket : bracket.token = .mark .openBracket)
    (hp : ReadSoundly .conditional budget lexemes (readConditional finish budget lexemes))
    (hl : ∀ n, budget = n + 1 → ∀ position rest,
      ExtendedSoundly .linked (.index operand position) n rest
        (readLinks finish n (.index operand position) rest)) :
    ExtendedSoundly .linked operand budget (bracket :: lexemes)
      (readLinks finish budget operand (bracket :: lexemes)) := by
  obtain ⟨_, text, offset⟩ := bracket
  subst hbracket
  intro ts l hlneed e rest h
  rw [readLinks] at h
  obtain ⟨⟨position, rest₁⟩, hposition, h₁⟩ := bind_eq_ok_iff.mp h
  obtain ⟨rest₂, hmark, h₂⟩ := bind_eq_ok_iff.mp h₁
  obtain ⟨close, hclose, rfl⟩ := eq_cons_of_takeMark? (expect_eq_ok_iff.mp hmark)
  obtain ⟨ps, rfl, p, hpneed⟩ := hp position _ hposition
  cases budget with
  | zero => exact absurd h₂ failAt_ne_ok
  | succ budget =>
      have hlexemes : (⟨.mark .openBracket, text, offset⟩ :: (ps ++ close :: rest₂) : List Lexeme) =
          ⟨.mark .openBracket, text, offset⟩ :: (ps ++ [close]) ++ rest₂ := by simp
      rw [hlexemes]
      refine (hl budget rfl position rest₂).link _ (fun us l' hl' => ?_) ts l hlneed e rest h₂
      rw [List.map_cons, List.map_append, List.map_singleton, hclose]
      exact ⟨.index l' p, rfl, by simp only [Derivation.need]; omega⟩

theorem extendedSoundly_call {name : String} {parenthesis : Lexeme}
    (hparenthesis : parenthesis.token = .mark .openParen)
    (ha : ArgumentsSoundly budget lexemes (readArguments finish budget lexemes.length lexemes))
    (hl : ∀ n, budget = n + 1 → ∀ args rest,
      ExtendedSoundly .linked (.call name args) n rest
        (readLinks finish n (.call name args) rest)) :
    ExtendedSoundly .linked (.ident name) budget (parenthesis :: lexemes)
      (readLinks finish budget (.ident name) (parenthesis :: lexemes)) := by
  obtain ⟨_, text, offset⟩ := parenthesis
  subst hparenthesis
  intro ts l hlneed e rest h
  rw [readLinks] at h
  obtain ⟨⟨args, rest₁⟩, hargs, h₁⟩ := bind_eq_ok_iff.mp h
  obtain ⟨close, hclose, as, hlexemes, a, haneed⟩ := ha args rest₁ hargs
  cases budget with
  | zero => exact absurd h₁ failAt_ne_ok
  | succ budget =>
      have hlexemes : (⟨.mark .openParen, text, offset⟩ :: lexemes : List Lexeme) =
          ⟨.mark .openParen, text, offset⟩ :: (as ++ [close]) ++ rest₁ := by simp [hlexemes]
      rw [hlexemes]
      refine (hl budget rfl args rest₁).link _ (fun us l' hl' => ?_) ts l hlneed e rest h₁
      rw [List.map_cons, List.map_append, List.map_singleton, hclose]
      exact ⟨.call l' a, rfl, by simp only [Derivation.need]; omega⟩

theorem argumentsSoundly_nil {fuel : Nat} {rest : List Lexeme}
    (hmark : takeMark? .closeParen lexemes = some rest) :
    ArgumentsSoundly budget lexemes (readArguments finish budget fuel lexemes) := by
  intro es rest' h
  rw [readArguments, hmark] at h
  obtain ⟨rfl, rfl⟩ := Prod.mk.inj (Except.ok.inj h)
  obtain ⟨close, hclose, rfl⟩ := eq_cons_of_takeMark? hmark
  exact ⟨close, hclose, [], rfl, .noArgument, Nat.zero_le _⟩

theorem exists_cons_of_readMoreArguments {fuel : Nat} {es : List Expr} {rest : List Lexeme}
    (h : readMoreArguments finish budget fuel lexemes = .ok (es, rest)) :
    ∃ e es', es = e :: es' := by
  rw [readMoreArguments] at h
  obtain ⟨⟨arg, rest₁⟩, -, h₁⟩ := bind_eq_ok_iff.mp h
  dsimp only at h₁
  split at h₁
  · exact ⟨arg, [], (Prod.mk.inj (Except.ok.inj h₁)).1.symm⟩
  · obtain ⟨rest₂, -, h₂⟩ := bind_eq_ok_iff.mp h₁
    cases fuel with
    | zero => exact absurd h₂ failAt_ne_ok
    | succ fuel =>
        obtain ⟨⟨args, rest₃⟩, -, h₃⟩ := bind_eq_ok_iff.mp h₂
        exact ⟨arg, args, (Prod.mk.inj (Except.ok.inj h₃)).1.symm⟩

theorem argumentsSoundly_more {fuel : Nat}
    (hc : ReadSoundly .conditional budget lexemes (readConditional finish budget lexemes))
    (hm : ∀ n, fuel = n + 1 → ∀ rest,
      ArgumentsSoundly budget rest (readMoreArguments finish budget n rest)) :
    ArgumentsSoundly budget lexemes (readMoreArguments finish budget fuel lexemes) := by
  intro es rest h
  rw [readMoreArguments] at h
  obtain ⟨⟨arg, rest₁⟩, harg, h₁⟩ := bind_eq_ok_iff.mp h
  obtain ⟨ts, rfl, d, hd⟩ := hc arg rest₁ harg
  dsimp only at h₁
  split at h₁
  · rename_i rest₂ hmark
    obtain ⟨close, hclose, rfl⟩ := eq_cons_of_takeMark? hmark
    obtain ⟨rfl, rfl⟩ := Prod.mk.inj (Except.ok.inj h₁)
    exact ⟨close, hclose, ts, rfl, .lastArgument d, hd⟩
  · obtain ⟨rest₂, hmark, h₂⟩ := bind_eq_ok_iff.mp h₁
    obtain ⟨comma, hcomma, rfl⟩ := eq_cons_of_takeMark? (expect_eq_ok_iff.mp hmark)
    cases fuel with
    | zero => exact absurd h₂ failAt_ne_ok
    | succ fuel =>
        obtain ⟨⟨args, rest₃⟩, hargs, h₃⟩ := bind_eq_ok_iff.mp h₂
        obtain ⟨rfl, rfl⟩ := Prod.mk.inj (Except.ok.inj h₃)
        obtain ⟨close, hclose, us, rfl, ds, hds⟩ := hm fuel rfl rest₂ args rest₃ hargs
        obtain ⟨e, es, rfl⟩ := exists_cons_of_readMoreArguments hargs
        refine ⟨close, hclose, ts ++ comma :: us, by simp, ?_⟩
        rw [List.map_append, List.map_cons, hcomma]
        exact ⟨.moreArguments d ds, Nat.max_le.mpr ⟨hd, hds⟩⟩

theorem readSoundly_parenthesized {parenthesis : Lexeme}
    (hparenthesis : parenthesis.token = .mark .openParen)
    (hc : ReadSoundly .conditional budget lexemes (readConditional finish budget lexemes)) :
    ReadSoundly .primary budget (parenthesis :: lexemes)
      (readPrimary finish budget (parenthesis :: lexemes)) := by
  obtain ⟨_, text, offset⟩ := parenthesis
  subst hparenthesis
  intro e rest h
  rw [readPrimary] at h
  obtain ⟨⟨inner, rest₁⟩, hinner, h₁⟩ := bind_eq_ok_iff.mp h
  obtain ⟨rest₂, hmark, h₂⟩ := bind_eq_ok_iff.mp h₁
  obtain ⟨close, hclose, rfl⟩ := eq_cons_of_takeMark? (expect_eq_ok_iff.mp hmark)
  obtain ⟨rfl, rfl⟩ := Prod.mk.inj (Except.ok.inj h₂)
  obtain ⟨ts, rfl, d, hd⟩ := hc inner _ hinner
  refine ⟨⟨.mark .openParen, text, offset⟩ :: (ts ++ [close]), by simp, ?_⟩
  rw [List.map_cons, List.map_append, List.map_singleton, hclose]
  exact ⟨.parenthesized d, hd⟩

end

section

variable (finish budget : Nat)

/-- **Soundness of reading.** The reader of expressions takes lexemes whose tokens derive the tree
that it gives, within its budget. -/
theorem readConditional_sound (lexemes : List Lexeme) :
    ReadSoundly .conditional budget lexemes (readConditional finish budget lexemes) := by
  revert budget lexemes
  refine (readConditional.mutual_induct
    (fun budget lexemes => ReadSoundly .conditional budget lexemes
      (readConditional finish budget lexemes))
    (fun budget levels lexemes => ReadSoundly (.binary levels) budget lexemes
      (readBinary finish budget levels lexemes))
    (fun budget operators tighter left lexemes =>
      ExtendedSoundly (.binary (operators :: tighter)) left budget lexemes
        (readChain finish budget operators tighter left lexemes))
    (fun budget lexemes => ReadSoundly .unary budget lexemes (readUnary finish budget lexemes))
    (fun budget lexemes => ReadSoundly .linked budget lexemes (readPostfix finish budget lexemes))
    (fun budget operand lexemes => ExtendedSoundly .linked operand budget lexemes
      (readLinks finish budget operand lexemes))
    (fun budget fuel lexemes => ArgumentsSoundly budget lexemes
      (readArguments finish budget fuel lexemes))
    (fun budget fuel lexemes => ArgumentsSoundly budget lexemes
      (readMoreArguments finish budget fuel lexemes))
    (fun budget lexemes => ReadSoundly .primary budget lexemes
      (readPrimary finish budget lexemes))
    ?conditionalZero ?conditional ?binaryNil ?binaryCons ?chainEnd ?chainZero ?chain ?unaryMark
    ?prefixedZero ?prefixed ?unaryOther ?linked ?memberZero ?member ?dotOther ?index ?call
    ?callOther ?linksEnd ?argumentsNil ?arguments ?moreArguments ?primaryNil ?number ?string ?name
    ?parenthesized ?primaryMark).1
  case conditionalZero =>
    intro lexemes
    rw [readConditional]
    exact readSoundly_failAt
  case conditional => exact fun lexemes budget => readSoundly_conditional
  case binaryNil => exact fun budget lexemes => readSoundly_binary_nil
  case binaryCons => exact fun budget lexemes operators tighter => readSoundly_binary_cons
  case chainEnd =>
    intro budget operators tighter left lexemes hnone
    rw [readChain, hnone]
    exact extendedSoundly_ok
  case chainZero =>
    intro operators tighter left lexemes op rest hop
    rw [readChain, hop]
    exact extendedSoundly_failAt
  case chain => exact fun operators tighter left lexemes op rest hop budget =>
      extendedSoundly_chain hop
  case unaryMark =>
    intro budget mark text offset rest hnone ih
    rw [readUnary, hnone]
    exact ih.plain
  case prefixedZero =>
    intro mark text offset rest op hop
    rw [readUnary, hop]
    exact readSoundly_failAt
  case prefixed => exact fun mark text offset rest op hop budget => readSoundly_prefixed hop
  case unaryOther =>
    intro budget lexemes hmark ih
    rw [readUnary]
    · exact ih.plain
    · exact hmark
  case linked => exact fun budget lexemes => readSoundly_postfix
  case memberZero =>
    intro operand text offset name text' offset' rest
    rw [readLinks]
    exact extendedSoundly_failAt
  case member => exact fun operand text offset name text' offset' rest budget =>
      extendedSoundly_member rfl rfl
  case dotOther =>
    intro budget operand text offset rest hident
    rw [readLinks]
    · exact extendedSoundly_failAt
    · exact hident
  case index =>
    intro budget operand text offset rest hp hl
    exact extendedSoundly_index rfl hp fun n hn => by subst hn; exact hl
  case call =>
    intro budget text offset rest name ha hl
    exact extendedSoundly_call rfl ha fun n hn => by subst hn; exact hl
  case callOther =>
    intro budget operand text offset rest hident
    rw [readLinks]
    · exact extendedSoundly_failAt
    · exact hident
  case linksEnd =>
    intro budget operand lexemes hdot hbracket hparenthesis
    rw [readLinks]
    · exact extendedSoundly_ok
    · exact hdot
    · exact hbracket
    · exact hparenthesis
  case argumentsNil => exact fun budget fuel lexemes rest => argumentsSoundly_nil
  case arguments =>
    intro budget fuel lexemes hnone ih
    rw [readArguments, hnone]
    exact ih
  case moreArguments =>
    intro budget fuel lexemes hc hm
    exact argumentsSoundly_more hc fun n hn => by subst hn; exact hm
  case primaryNil =>
    intro budget
    rw [readPrimary]
    exact readSoundly_failAt
  case number =>
    intro budget x text offset rest
    rw [readPrimary]
    exact readSoundly_singleton (.number x) rfl
  case string =>
    intro budget s text offset rest
    rw [readPrimary]
    exact readSoundly_singleton (.string s) rfl
  case name =>
    intro budget name text offset rest
    rw [readPrimary]
    exact readSoundly_singleton (.name name) rfl
  case parenthesized => exact fun budget text offset rest => readSoundly_parenthesized rfl
  case primaryMark =>
    intro budget mark text offset rest hmark
    rw [readPrimary]
    · exact readSoundly_failAt
    · exact hmark

end

end Widgetry.Expr
