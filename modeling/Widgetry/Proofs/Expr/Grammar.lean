import Widgetry.Expr.Parser

/-!
# The grammar of expressions

A `Phrase` is what a stretch of tokens can be, together with the tree that it stands for, and
`Derivation p ts` is the type of derivations of the phrase `p` from the tokens `ts`. The grammar
says nothing about depth; what reading a phrase costs is computed from its derivation. Each
operator or access of a chain holds a unit of the budget until its chain ends, so `need` of a chain
counts its `links` on top of what an operand of it needs.
-/

namespace Widgetry.Expr

/-- What a stretch of tokens can be, with the tree that it stands for. -/
inductive Phrase where
  | conditional (e : Expr)
  /-- A chain of the loosest of some binary levels, the loosest first. -/
  | binary (levels : List (List (Mark × BinaryOp))) (e : Expr)
  | unary (e : Expr)
  /-- An operand with accesses and calls after it. -/
  | linked (e : Expr)
  | primary (e : Expr)
  /-- What stands between the parentheses of a call. -/
  | arguments (es : List Expr)

/-- The derivations of a phrase from tokens. Binary operators, accesses and calls group to the left,
so the chain before the last link is a derivation of the same phrase. -/
inductive Derivation : Phrase → List Token → Type where
  | operand {ts : List Token} {e : Expr} (d : Derivation (.binary operatorLevels e) ts) :
      Derivation (.conditional e) ts
  | choice {cs ys ns : List Token} {c yes no : Expr}
      (condition : Derivation (.binary operatorLevels c) cs)
      (y : Derivation (.conditional yes) ys) (n : Derivation (.conditional no) ns) :
      Derivation (.conditional (.conditional c yes no))
        (cs ++ .mark .question :: (ys ++ .mark .colon :: ns))
  | single {ts : List Token} {e : Expr} (d : Derivation (.unary e) ts) :
      Derivation (.binary [] e) ts
  | tighter {operators : List (Mark × BinaryOp)} {levels : List (List (Mark × BinaryOp))}
      {ts : List Token} {e : Expr} (d : Derivation (.binary levels e) ts) :
      Derivation (.binary (operators :: levels) e) ts
  | chain {operators : List (Mark × BinaryOp)} {levels : List (List (Mark × BinaryOp))}
      {ls rs : List Token} {left right : Expr} {mark : Mark} {op : BinaryOp}
      (l : Derivation (.binary (operators :: levels) left) ls) (h : (mark, op) ∈ operators)
      (r : Derivation (.binary levels right) rs) :
      Derivation (.binary (operators :: levels) (.binary op left right)) (ls ++ .mark mark :: rs)
  | plain {ts : List Token} {e : Expr} (d : Derivation (.linked e) ts) : Derivation (.unary e) ts
  | prefixed {ts : List Token} {e : Expr} {mark : Mark} {op : UnaryOp}
      (h : prefixOp? mark = some op) (d : Derivation (.unary e) ts) :
      Derivation (.unary (.unary op e)) (.mark mark :: ts)
  | unlinked {ts : List Token} {e : Expr} (d : Derivation (.primary e) ts) :
      Derivation (.linked e) ts
  | member {ts : List Token} {e : Expr} (d : Derivation (.linked e) ts) (name : String) :
      Derivation (.linked (.member e name)) (ts ++ [.mark .dot, .ident name])
  | index {ts ps : List Token} {e position : Expr} (d : Derivation (.linked e) ts)
      (p : Derivation (.conditional position) ps) :
      Derivation (.linked (.index e position))
        (ts ++ .mark .openBracket :: (ps ++ [.mark .closeBracket]))
  /-- Only a name can be called. -/
  | call {ts as : List Token} {name : String} {args : List Expr}
      (d : Derivation (.linked (.ident name)) ts) (a : Derivation (.arguments args) as) :
      Derivation (.linked (.call name args))
        (ts ++ .mark .openParen :: (as ++ [.mark .closeParen]))
  | number (x : Binary64) : Derivation (.primary (.literal (.ofNumber x))) [.number x]
  | string (s : String) : Derivation (.primary (.literal (.str s))) [.string s]
  | name (name : String) : Derivation (.primary (ofName name)) [.ident name]
  | parenthesized {ts : List Token} {e : Expr} (d : Derivation (.conditional e) ts) :
      Derivation (.primary e) (.mark .openParen :: (ts ++ [.mark .closeParen]))
  | noArgument : Derivation (.arguments []) []
  | lastArgument {ts : List Token} {e : Expr} (d : Derivation (.conditional e) ts) :
      Derivation (.arguments [e]) ts
  | moreArguments {ts us : List Token} {e e' : Expr} {es : List Expr}
      (d : Derivation (.conditional e) ts) (ds : Derivation (.arguments (e' :: es)) us) :
      Derivation (.arguments (e :: e' :: es)) (ts ++ .mark .comma :: us)

namespace Derivation

/-- How many operators, or accesses and calls, the chain at the top of a derivation has. -/
def links {p : Phrase} {ts : List Token} : Derivation p ts → Nat
  | .chain l _ _ => l.links + 1
  | .member d _ => d.links + 1
  | .index d _ => d.links + 1
  | .call d _ => d.links + 1
  | _ => 0

/-- How many units of the budget reading takes at its deepest place. -/
def need {p : Phrase} {ts : List Token} : Derivation p ts → Nat
  | .operand d => d.need + 1
  | .choice condition y n => max condition.need (max y.need n.need) + 1
  | .single d => d.need
  | .tighter d => d.need
  | .chain l _ r => max l.need (l.links + (r.need + 1))
  | .plain d => d.need
  | .prefixed _ d => d.need + 1
  | .unlinked d => d.need
  | .member d _ => max d.need (d.links + 1)
  | .index d p => max d.need (d.links + max p.need 1)
  | .call d a => max d.need (d.links + max a.need 1)
  | .number _ => 0
  | .string _ => 0
  | .name _ => 0
  | .parenthesized d => d.need
  | .noArgument => 0
  | .lastArgument d => d.need
  | .moreArguments d ds => max d.need ds.need

/-- The links of a chain are paid for. -/
theorem links_le_need {p : Phrase} {ts : List Token} (d : Derivation p ts) :
    d.links ≤ d.need := by
  cases d <;> simp only [links, need] <;> omega

/-- A choice, or what stands in its place, takes a unit of its own. -/
theorem need_pos {e : Expr} {ts : List Token} (d : Derivation (.conditional e) ts) :
    0 < d.need := by
  cases d <;> simp only [need] <;> omega

/-- An operand with its accesses and calls stands by itself on every binary level. -/
theorem exists_of_linked {e : Expr} {ts : List Token} (d : Derivation (.linked e) ts)
    (levels : List (List (Mark × BinaryOp))) :
    ∃ d' : Derivation (.binary levels e) ts, d'.need = d.need := by
  induction levels with
  | nil => exact ⟨.single (.plain d), rfl⟩
  | cons operators levels ih =>
      obtain ⟨d', hd'⟩ := ih
      exact ⟨.tighter d', hd'⟩

end Derivation

/-- The marks with which the tokens of a phrase can begin. -/
def Phrase.CanBegin : Phrase → Mark → Prop
  | .linked _, mark => mark = .openParen
  | .primary _, mark => mark = .openParen
  | _, mark => mark = .openParen ∨ (prefixOp? mark).isSome

/-- Whether tokens begin, and not with a mark that the phrase cannot begin with. -/
def Phrase.Begins (p : Phrase) : List Token → Prop
  | [] => False
  | token :: _ => ∀ mark, token = .mark mark → p.CanBegin mark

theorem Phrase.Begins.append {p : Phrase} {ts : List Token} (h : p.Begins ts) (us : List Token) :
    p.Begins (ts ++ us) := by
  cases ts with
  | nil => exact h.elim
  | cons token rest => exact h

theorem Phrase.Begins.imp {p q : Phrase} {ts : List Token} (h : p.Begins ts)
    (hpq : ∀ mark, p.CanBegin mark → q.CanBegin mark) : q.Begins ts := by
  cases ts with
  | nil => exact h.elim
  | cons token rest => exact fun mark hmark => hpq mark (h mark hmark)

/-- Only the arguments of a call can be without tokens. -/
theorem Derivation.begins {p : Phrase} {ts : List Token} (d : Derivation p ts) :
    p ≠ .arguments [] → p.Begins ts := by
  induction d with
  | operand d ih => exact fun _ => ih (by simp)
  | choice condition y n ih _ _ => exact fun _ => Phrase.Begins.append (ih (by simp)) _
  | single d ih => exact fun _ => ih (by simp)
  | tighter d ih => exact fun _ => ih (by simp)
  | chain l h r ih _ => exact fun _ => (ih (by simp)).append _
  | plain d ih => exact fun _ => (ih (by simp)).imp fun _ => Or.inl
  | prefixed h d ih =>
      rintro - mark ⟨rfl⟩
      exact Or.inr (by simp [h])
  | unlinked d ih => exact fun _ => ih (by simp)
  | member d name ih => exact fun _ => (ih (by simp)).append _
  | index d p ih _ => exact fun _ => Phrase.Begins.append (ih (by simp)) _
  | call d a ih _ => exact fun _ => Phrase.Begins.append (ih (by simp)) _
  | number x => exact fun _ mark hmark => by simp at hmark
  | string s => exact fun _ mark hmark => by simp at hmark
  | name name => exact fun _ mark hmark => by simp at hmark
  | parenthesized d ih =>
      rintro - mark ⟨rfl⟩
      rfl
  | noArgument => exact fun h => absurd rfl h
  | lastArgument d ih => exact fun _ => ih (by simp)
  | moreArguments d ds ih _ => exact fun _ => Phrase.Begins.append (ih (by simp)) _

end Widgetry.Expr
