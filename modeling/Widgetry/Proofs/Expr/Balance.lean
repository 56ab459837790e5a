import Mathlib
import Widgetry.Proofs.Expr.Agreement
import Widgetry.Proofs.Expr.Completeness

/-!
# The balance of a reader

A routine with a cursor does what the reader with a budget does. It ends, it gives back what it
holds and never more, and where it reads something it has gone forward. The induction is on the calls
of the readers, whose budget goes down; it needs each case for every place where the cursor may
stand, and for a chain every number of its links.
-/

namespace Widgetry.Expr.Counting

section

variable {α β : Type} {finish : Nat} {lexemes : List Lexeme}

/-- A routine agrees with a reader of some lexemes, from every cursor that stands before them and
leaves the reader's budget: it takes lexemes, and gives back what it has held. -/
def Follows (lexemes : List Lexeme) (budget : Nat) (rest : List Lexeme)
    (x : Nat → Counting α) (r : Except ExprError (α × List Lexeme)) : Prop :=
  ∀ place held, place ≤ lexemes.length → lexemes.drop place = rest → held + budget = maxDepth →
    Agrees lexemes (place < ·) held x ⟨place, held⟩ r

/-- The same for a routine that goes on with a chain: it may take nothing, and gives back the units
of all links, with those that the chain has had before. -/
def FollowsOn (lexemes : List Lexeme) (budget : Nat) (rest : List Lexeme)
    (x : Nat → Nat → Counting Expr) (r : Reading) : Prop :=
  ∀ place held links, place ≤ lexemes.length → lexemes.drop place = rest →
    held + links + budget = maxDepth →
      Agrees lexemes (place ≤ ·) held (x links) ⟨place, held + links⟩ r

/-- A place right after a closing parenthesis. -/
def IsAfterClose (lexemes : List Lexeme) (place : Nat) : Prop :=
  ∃ lexeme, lexemes[place - 1]? = some lexeme ∧ lexeme.token = .mark .closeParen

/-- The same for a routine that reads arguments: it ends right after a closing parenthesis. -/
def FollowsArguments (lexemes : List Lexeme) (budget fuel : Nat) (rest : List Lexeme)
    (x : Nat → Counting (List Expr)) (r : Except ExprError (List Expr × List Lexeme)) : Prop :=
  ∀ place held, place ≤ lexemes.length → lexemes.drop place = rest → held + budget = maxDepth →
    rest.length ≤ fuel →
      Agrees lexemes (fun place' => place < place' ∧ IsAfterClose lexemes place') held x
        ⟨place, held⟩ r

section

variable {budget : Nat} {rest : List Lexeme}

theorem follows_conditional_zero :
    Follows lexemes 0 rest (conditional finish lexemes) (readConditional finish 0 rest) := by
  rintro place held - rfl hheld
  rw [readConditional]
  refine .succ ?_
  simp only [conditional]
  exact .hold_full hheld

theorem follows_conditional
    (hb : Follows lexemes budget rest (binary finish lexemes operatorLevels)
      (readBinary finish budget operatorLevels rest))
    (hc : ∀ rest, Follows lexemes budget rest (conditional finish lexemes)
      (readConditional finish budget rest)) :
    Follows lexemes (budget + 1) rest (conditional finish lexemes)
      (readConditional finish (budget + 1) rest) := by
  rintro place held hplace rfl hheld
  rw [readConditional]
  refine .succ ?_
  simp only [conditional]
  refine .hold (by omega) ?_
  refine (hb place (held + 1) hplace rfl (by omega)).bind ?_
  intro condition place₁ hle₁ hlt₁
  dsimp only
  cases hmark : takeMark? .question (lexemes.drop place₁) with
  | none => exact .eat_of_none hmark (.release_pure hle₁ hlt₁)
  | some rest₂ =>
      refine .eat_of_some hmark fun hlt₂ hrest₂ => ?_
      refine (hc rest₂ (place₁ + 1) (held + 1) hlt₂ hrest₂.symm (by omega)).bind ?_
      intro yes place₃ hle₃ hlt₃
      refine .expect fun hlt₄ => ?_
      refine (hc _ (place₃ + 1) (held + 1) hlt₄ rfl (by omega)).bind ?_
      intro no place₅ hle₅ hlt₅
      exact .release_pure hle₅ (by omega)

theorem follows_binary_nil
    (hu : Follows lexemes budget rest (unary finish lexemes) (readUnary finish budget rest)) :
    Follows lexemes budget rest (binary finish lexemes []) (readBinary finish budget [] rest) := by
  intro place held hplace hrest hheld
  rw [readBinary]
  refine .succ ?_
  simp only [binary]
  exact hu place held hplace hrest hheld

theorem follows_binary_cons {operators : List (Mark × BinaryOp)}
    {tighter : List (List (Mark × BinaryOp))}
    (ht : Follows lexemes budget rest (binary finish lexemes tighter)
      (readBinary finish budget tighter rest))
    (hc : ∀ left rest, FollowsOn lexemes budget rest (chain finish lexemes operators tighter left)
      (readChain finish budget operators tighter left rest)) :
    Follows lexemes budget rest (binary finish lexemes (operators :: tighter))
      (readBinary finish budget (operators :: tighter) rest) := by
  rintro place held hplace rfl hheld
  rw [readBinary]
  refine .succ ?_
  simp only [binary]
  refine (ht place held hplace rfl hheld).bind ?_
  intro left place₁ hle₁ hlt₁
  exact (hc left _ place₁ held 0 hle₁ rfl hheld).imp fun place₂ hle₂ => Nat.lt_of_lt_of_le hlt₁ hle₂

theorem followsOn_chain_end {operators : List (Mark × BinaryOp)}
    {tighter : List (List (Mark × BinaryOp))} {left : Expr}
    (hnone : takeOperator? operators rest = none) :
    FollowsOn lexemes budget rest (chain finish lexemes operators tighter left)
      (readChain finish budget operators tighter left rest) := by
  rintro place held links hplace rfl -
  rw [readChain, hnone]
  refine .succ ?_
  simp only [chain]
  refine .step (runFrom_eatOperator_of_none _ hnone) ?_
  exact .release_pure hplace (Nat.le_refl place)

theorem followsOn_chain_zero {operators : List (Mark × BinaryOp)}
    {tighter : List (List (Mark × BinaryOp))} {left : Expr} {op : BinaryOp} {after : List Lexeme}
    (hop : takeOperator? operators rest = some (op, after)) :
    FollowsOn lexemes 0 rest (chain finish lexemes operators tighter left)
      (readChain finish 0 operators tighter left rest) := by
  rintro place held links hplace rfl hheld
  obtain ⟨-, rfl, hrun⟩ := runFrom_eatOperator_of_some (held + links) hop
  rw [readChain, hop]
  refine .succ ?_
  simp only [chain]
  exact .step hrun (.hold_full hheld)

theorem followsOn_chain {operators : List (Mark × BinaryOp)}
    {tighter : List (List (Mark × BinaryOp))} {left : Expr} {op : BinaryOp} {after : List Lexeme}
    (hop : takeOperator? operators rest = some (op, after))
    (ht : Follows lexemes budget after (binary finish lexemes tighter)
      (readBinary finish budget tighter after))
    (hc : ∀ right rest, FollowsOn lexemes budget rest
      (chain finish lexemes operators tighter (.binary op left right))
      (readChain finish budget operators tighter (.binary op left right) rest)) :
    FollowsOn lexemes (budget + 1) rest (chain finish lexemes operators tighter left)
      (readChain finish (budget + 1) operators tighter left rest) := by
  rintro place held links hplace rfl hheld
  obtain ⟨hlt, rfl, hrun⟩ := runFrom_eatOperator_of_some (held + links) hop
  rw [readChain, hop]
  refine .succ ?_
  simp only [chain]
  refine .step hrun (.hold (by omega) ?_)
  refine (ht (place + 1) (held + links + 1) hlt rfl (by omega)).bind ?_
  intro right place₁ hle₁ hlt₁
  exact (hc right _ place₁ held (links + 1) hle₁ rfl (by omega)).imp fun place₂ hle₂ => by omega

theorem follows_unary_of_none (hnot : takeMark? .not rest = none)
    (hminus : takeMark? .minus rest = none) {r : Reading}
    (hl : Follows lexemes budget rest (linked finish lexemes) r) :
    Follows lexemes budget rest (unary finish lexemes) r := by
  rintro place held hplace rfl hheld
  refine .succ ?_
  simp only [unary]
  exact .eat_of_none hnot (.eat_of_none hminus (hl place held hplace rfl hheld))

/-- A prefix operator is taken, and then its operand is read. -/
theorem agrees_unary_of_some {mark : Mark} {text : List Char} {offset place now held : Nat}
    {op : UnaryOp} {goal : Nat → Prop} {r : Reading}
    (hdrop : lexemes.drop place = ⟨.mark mark, text, offset⟩ :: rest)
    (hop : prefixOp? mark = some op)
    (h : Agrees lexemes goal held (prefixed finish lexemes op) ⟨place + 1, now⟩ r) :
    Agrees lexemes goal held (unary finish lexemes) ⟨place, now⟩ r := by
  have htake := takeMark?_of_drop hdrop
  refine .succ ?_
  simp only [unary]
  unfold prefixOp? at hop
  split at hop
  · obtain rfl := Option.some.inj hop
    exact .eat_of_some (htake .not) fun _ _ => h
  · obtain rfl := Option.some.inj hop
    exact .eat_of_none (htake .not) (.eat_of_some (htake .minus) fun _ _ => h)
  · cases hop

theorem follows_prefixed_zero {mark : Mark} {text : List Char} {offset : Nat} {op : UnaryOp}
    (hop : prefixOp? mark = some op) :
    Follows lexemes 0 (⟨.mark mark, text, offset⟩ :: rest) (unary finish lexemes)
      (readUnary finish 0 (⟨.mark mark, text, offset⟩ :: rest)) := by
  intro place held hplace hdrop hheld
  obtain ⟨-, -, hrest⟩ := of_drop_eq_cons hdrop
  rw [readUnary, hop]
  refine agrees_unary_of_some hdrop hop ?_
  rw [hrest]
  refine .succ ?_
  simp only [prefixed]
  exact .hold_full hheld

theorem follows_prefixed {mark : Mark} {text : List Char} {offset : Nat} {op : UnaryOp}
    (hop : prefixOp? mark = some op)
    (hu : Follows lexemes budget rest (unary finish lexemes) (readUnary finish budget rest)) :
    Follows lexemes (budget + 1) (⟨.mark mark, text, offset⟩ :: rest) (unary finish lexemes)
      (readUnary finish (budget + 1) (⟨.mark mark, text, offset⟩ :: rest)) := by
  intro place held hplace hdrop hheld
  obtain ⟨hlt, -, hrest⟩ := of_drop_eq_cons hdrop
  rw [readUnary, hop]
  refine agrees_unary_of_some hdrop hop ?_
  refine .succ ?_
  simp only [prefixed]
  refine .hold (by omega) ?_
  refine (hu (place + 1) (held + 1) hlt hrest.symm (by omega)).bind ?_
  intro operand place₁ hle₁ hlt₁
  exact .release_pure hle₁ (by omega)

theorem follows_linked
    (hp : Follows lexemes budget rest (primary finish lexemes) (readPrimary finish budget rest))
    (hl : ∀ operand rest, FollowsOn lexemes budget rest (access finish lexemes operand)
      (readLinks finish budget operand rest)) :
    Follows lexemes budget rest (linked finish lexemes) (readPostfix finish budget rest) := by
  rintro place held hplace rfl hheld
  rw [readPostfix]
  refine .succ ?_
  simp only [linked]
  refine (hp place held hplace rfl hheld).bind ?_
  intro operand place₁ hle₁ hlt₁
  exact (hl operand _ place₁ held 0 hle₁ rfl hheld).imp fun place₂ hle₂ => by omega

/-- After a dot, the name of a member is taken. -/
theorem agrees_access_member {operand : Expr} {name : String} {text text' : List Char}
    {offset offset' place now held links : Nat} {goal : Nat → Prop} {r : Reading}
    (hdrop : lexemes.drop place = ⟨.mark .dot, text, offset⟩ :: ⟨.ident name, text', offset'⟩ :: rest)
    (h : Agrees lexemes goal held
      (fun stack => hold finish lexemes >>= fun _ =>
        access finish lexemes (.member operand name) (links + 1) stack) ⟨place + 2, now⟩ r) :
    Agrees lexemes goal held (access finish lexemes operand links) ⟨place, now⟩ r := by
  refine .succ ?_
  simp only [access]
  refine .eat_of_some (takeMark?_of_drop hdrop .dot) fun _ hrest => ?_
  exact .step (runFrom_peek_of_drop hrest.symm) (.step (runFrom_skip _) h)

theorem followsOn_member_zero {operand : Expr} {name : String} {text text' : List Char}
    {offset offset' : Nat} :
    FollowsOn lexemes 0 (⟨.mark .dot, text, offset⟩ :: ⟨.ident name, text', offset'⟩ :: rest)
      (access finish lexemes operand)
      (readLinks finish 0 operand
        (⟨.mark .dot, text, offset⟩ :: ⟨.ident name, text', offset'⟩ :: rest)) := by
  intro place held links hplace hdrop hheld
  obtain ⟨-, -, hident⟩ := of_drop_eq_cons hdrop
  obtain ⟨-, -, rfl⟩ := of_drop_eq_cons hident.symm
  rw [readLinks]
  exact agrees_access_member hdrop (.hold_full hheld)

theorem followsOn_member {operand : Expr} {name : String} {text text' : List Char}
    {offset offset' : Nat}
    (hl : FollowsOn lexemes budget rest (access finish lexemes (.member operand name))
      (readLinks finish budget (.member operand name) rest)) :
    FollowsOn lexemes (budget + 1)
      (⟨.mark .dot, text, offset⟩ :: ⟨.ident name, text', offset'⟩ :: rest)
      (access finish lexemes operand)
      (readLinks finish (budget + 1) operand
        (⟨.mark .dot, text, offset⟩ :: ⟨.ident name, text', offset'⟩ :: rest)) := by
  intro place held links hplace hdrop hheld
  obtain ⟨-, -, hident⟩ := of_drop_eq_cons hdrop
  obtain ⟨hlt, -, hrest⟩ := of_drop_eq_cons hident.symm
  rw [readLinks]
  refine agrees_access_member hdrop (.hold (by omega) ?_)
  exact (hl (place + 2) held (links + 1) hlt hrest.symm (by omega)).imp fun _ hle => by omega

/-- Something else than a name after a dot. -/
theorem followsOn_dot_other {operand : Expr} {text : List Char} {offset : Nat}
    (hident : ∀ name text offset after, rest = ⟨.ident name, text, offset⟩ :: after → False) :
    FollowsOn lexemes budget (⟨.mark .dot, text, offset⟩ :: rest) (access finish lexemes operand)
      (readLinks finish budget operand (⟨.mark .dot, text, offset⟩ :: rest)) := by
  intro place held links hplace hdrop hheld
  have hread : readLinks finish budget operand (⟨.mark .dot, text, offset⟩ :: rest) =
      failAt finish rest .expectedMember := by
    rw [readLinks]
    exact hident
  rw [hread]
  refine .succ ?_
  simp only [access]
  refine .eat_of_some (takeMark?_of_drop hdrop .dot) fun _ hrest => ?_
  rw [hrest]
  cases rest with
  | nil => exact .step (runFrom_peek_of_drop_nil hrest.symm) (.refuse _)
  | cons lexeme after =>
      refine .step (runFrom_peek_of_drop hrest.symm) ?_
      obtain ⟨token, text', offset'⟩ := lexeme
      cases token with
      | ident name => exact (hident name text' offset' after rfl).elim
      | number x => exact .refuse _
      | string s => exact .refuse _
      | mark m => exact .refuse _

theorem followsOn_index {operand : Expr} {text : List Char} {offset : Nat}
    (hp : Follows lexemes budget rest (conditional finish lexemes)
      (readConditional finish budget rest))
    (hl : ∀ n, budget = n + 1 → ∀ position rest, FollowsOn lexemes n rest
      (access finish lexemes (.index operand position))
      (readLinks finish n (.index operand position) rest)) :
    FollowsOn lexemes budget (⟨.mark .openBracket, text, offset⟩ :: rest)
      (access finish lexemes operand)
      (readLinks finish budget operand (⟨.mark .openBracket, text, offset⟩ :: rest)) := by
  intro place held links hplace hdrop hheld
  have htake := takeMark?_of_drop hdrop
  rw [readLinks]
  refine .succ ?_
  simp only [access]
  refine .eat_of_none (htake .dot) (.eat_of_some (htake .openBracket) fun hlt hrest => ?_)
  refine (hp (place + 1) (held + links) hlt hrest.symm hheld).bind ?_
  intro position place₁ hle₁ hlt₁
  refine .expect fun hlt₂ => ?_
  cases budget with
  | zero => exact .hold_full hheld
  | succ n =>
      refine .hold (by omega) ?_
      exact (hl n rfl position _ (place₁ + 1) held (links + 1) hlt₂ rfl (by omega)).imp
        fun _ hle => by omega

theorem followsOn_call {name : String} {text : List Char} {offset : Nat}
    (ha : FollowsArguments lexemes budget rest.length rest (arguments finish lexemes)
      (readArguments finish budget rest.length rest))
    (hl : ∀ n, budget = n + 1 → ∀ args rest, FollowsOn lexemes n rest
      (access finish lexemes (.call name args)) (readLinks finish n (.call name args) rest)) :
    FollowsOn lexemes budget (⟨.mark .openParen, text, offset⟩ :: rest)
      (access finish lexemes (.ident name))
      (readLinks finish budget (.ident name) (⟨.mark .openParen, text, offset⟩ :: rest)) := by
  intro place held links hplace hdrop hheld
  have htake := takeMark?_of_drop hdrop
  obtain ⟨hlt, -, hrest⟩ := of_drop_eq_cons hdrop
  rw [readLinks]
  refine .succ ?_
  simp only [access]
  refine .eat_of_none (htake .dot) (.eat_of_none (htake .openBracket) ?_)
  refine .step (runFrom_peek_of_drop hdrop) ?_
  refine .step (runFrom_skip _) ?_
  refine (ha (place + 1) (held + links) hlt hrest.symm hheld (Nat.le_refl _)).bind ?_
  rintro args place₁ hle₁ ⟨hlt₁, -⟩
  cases budget with
  | zero => exact .hold_full hheld
  | succ n =>
      refine .hold (by omega) ?_
      exact (hl n rfl args _ place₁ held (links + 1) hle₁ rfl (by omega)).imp
        fun _ hle => by omega

theorem followsOn_not_callable {operand : Expr} {text : List Char} {offset : Nat}
    (hoperand : ∀ name, operand = .ident name → False) :
    FollowsOn lexemes budget (⟨.mark .openParen, text, offset⟩ :: rest)
      (access finish lexemes operand)
      (readLinks finish budget operand (⟨.mark .openParen, text, offset⟩ :: rest)) := by
  intro place held links hplace hdrop hheld
  have htake := takeMark?_of_drop hdrop
  have hread : readLinks finish budget operand (⟨.mark .openParen, text, offset⟩ :: rest) =
      failAt finish (lexemes.drop place) .notCallable := by
    rw [readLinks, hdrop]
    exact hoperand
  rw [hread]
  refine .succ ?_
  simp only [access]
  refine .eat_of_none (htake .dot) (.eat_of_none (htake .openBracket) ?_)
  refine .step (runFrom_peek_of_drop hdrop) ?_
  cases operand with
  | ident name => exact (hoperand name rfl).elim
  | literal | member | index | call | unary | binary | conditional => exact .refuse _

theorem followsOn_access_end {operand : Expr} (hdot : takeMark? .dot rest = none)
    (hbracket : takeMark? .openBracket rest = none) (hparen : takeMark? .openParen rest = none) :
    FollowsOn lexemes budget rest (access finish lexemes operand) (.ok (operand, rest)) := by
  rintro place held links hplace rfl -
  refine .succ ?_
  simp only [access]
  refine .eat_of_none hdot (.eat_of_none hbracket (.step (runFrom_peek _) ?_))
  simp only [if_neg (ne_of_takeMark?_drop hparen)]
  exact .release_pure hplace (Nat.le_refl place)

theorem isAfterClose_of_takeMark? {place : Nat} {after : List Lexeme}
    (h : takeMark? .closeParen (lexemes.drop place) = some after) :
    IsAfterClose lexemes (place + 1) := by
  obtain ⟨lexeme, hnext, htoken⟩ := Option.map_eq_some_iff.1 (of_takeMark?_drop h).2.1
  exact ⟨lexeme, hnext, htoken⟩

theorem followsArguments_nil {fuel : Nat} {after : List Lexeme}
    (hmark : takeMark? .closeParen rest = some after) :
    FollowsArguments lexemes budget fuel rest (arguments finish lexemes)
      (readArguments finish budget fuel rest) := by
  rintro place held hplace rfl - -
  rw [readArguments, hmark]
  refine .succ ?_
  simp only [arguments]
  refine .eat_of_some hmark fun hlt hafter => ?_
  rw [hafter]
  exact .pure hlt ⟨Nat.lt_succ_self place, isAfterClose_of_takeMark? hmark⟩

/-- The value of a reader, changed. -/
abbrev mapRead (f : α → β) (r : Except ExprError (α × List Lexeme)) :
    Except ExprError (β × List Lexeme) :=
  (fun read => (f read.1, read.2)) <$> r

theorem followsArguments {fuel : Nat}
    (hnone : takeMark? .closeParen rest = none)
    (hm : ∀ args, FollowsArguments lexemes budget fuel rest (moreArguments finish lexemes args)
      (mapRead (args ++ ·) (readMoreArguments finish budget fuel rest))) :
    FollowsArguments lexemes budget fuel rest (arguments finish lexemes)
      (readArguments finish budget fuel rest) := by
  rintro place held hplace rfl hheld hfuel
  have hsame (r : Except ExprError (List Expr × List Lexeme)) : mapRead ([] ++ ·) r = r := by
    cases r with
    | error e => rfl
    | ok read => rfl
  rw [readArguments, hnone, ← hsame (readMoreArguments finish budget fuel _)]
  refine .succ ?_
  simp only [arguments]
  exact .eat_of_none hnone (hm [] place held hplace rfl hheld hfuel)

/-- Each argument takes a lexeme, so that the reader has enough fuel for all of them. -/
theorem followsArguments_more {fuel : Nat}
    (hc : Follows lexemes budget rest (conditional finish lexemes)
      (readConditional finish budget rest))
    (hm : ∀ n, fuel = n + 1 → ∀ rest args, FollowsArguments lexemes budget n rest
      (moreArguments finish lexemes args)
      (mapRead (args ++ ·) (readMoreArguments finish budget n rest))) (args : List Expr) :
    FollowsArguments lexemes budget fuel rest (moreArguments finish lexemes args)
      (mapRead (args ++ ·) (readMoreArguments finish budget fuel rest)) := by
  rintro place held hplace rfl hheld hfuel
  rw [List.length_drop] at hfuel
  rw [readMoreArguments, mapRead, map_bind]
  refine .succ ?_
  simp only [moreArguments]
  refine (hc place held hplace rfl hheld).bind ?_
  intro arg place₁ hle₁ hlt₁
  dsimp only
  cases hmark : takeMark? .closeParen (lexemes.drop place₁) with
  | some after =>
      refine .eat_of_some hmark fun hlt₂ hafter => ?_
      rw [hafter]
      exact .pure hlt₂ ⟨by omega, isAfterClose_of_takeMark? hmark⟩
  | none =>
      refine .eat_of_none hmark ?_
      dsimp only
      rw [map_bind]
      refine .expect fun hlt₂ => ?_
      cases fuel with
      | zero => omega
      | succ n =>
          have hread (r : Except ExprError (List Expr × List Lexeme)) :
              mapRead (args ++ ·) (r >>= fun read => .ok (arg :: read.1, read.2)) =
                mapRead (args ++ [arg] ++ ·) r := by
            cases r with
            | error e => rfl
            | ok read => simp [mapRead, Functor.map, Except.map, bind, Except.bind]
          have hmore := hm n rfl (lexemes.drop (place₁ + 1)) (args ++ [arg]) (place₁ + 1) held hlt₂
            rfl hheld (by rw [List.length_drop]; omega)
          rw [← hread] at hmore
          exact hmore.imp fun place₃ h => ⟨by omega, h.2⟩

theorem follows_primary_nil :
    Follows lexemes budget [] (primary finish lexemes) (readPrimary finish budget []) := by
  intro place held hplace hdrop hheld
  rw [readPrimary, ← hdrop]
  refine .succ ?_
  simp only [primary]
  exact .step (runFrom_peek_of_drop_nil hdrop) (.refuse _)

/-- A lexeme that is read as it stands. -/
theorem agrees_skip_pure {place held : Nat} {lexeme : Lexeme} {e : Expr}
    (hdrop : lexemes.drop place = lexeme :: rest) :
    Agrees lexemes (place < ·) held (fun _ => skip >>= fun _ => pure e) ⟨place, held⟩
      (.ok (e, rest)) := by
  obtain ⟨hlt, -, rfl⟩ := of_drop_eq_cons hdrop
  exact .step (runFrom_skip _) (.pure hlt (Nat.lt_succ_self place))

theorem follows_number {x : Binary64} {text : List Char} {offset : Nat} :
    Follows lexemes budget (⟨.number x, text, offset⟩ :: rest) (primary finish lexemes)
      (readPrimary finish budget (⟨.number x, text, offset⟩ :: rest)) := by
  intro place held hplace hdrop hheld
  rw [readPrimary]
  refine .succ ?_
  simp only [primary]
  exact .step (runFrom_peek_of_drop hdrop) (agrees_skip_pure hdrop)

theorem follows_string {s : String} {text : List Char} {offset : Nat} :
    Follows lexemes budget (⟨.string s, text, offset⟩ :: rest) (primary finish lexemes)
      (readPrimary finish budget (⟨.string s, text, offset⟩ :: rest)) := by
  intro place held hplace hdrop hheld
  rw [readPrimary]
  refine .succ ?_
  simp only [primary]
  exact .step (runFrom_peek_of_drop hdrop) (agrees_skip_pure hdrop)

theorem follows_name {name : String} {text : List Char} {offset : Nat} :
    Follows lexemes budget (⟨.ident name, text, offset⟩ :: rest) (primary finish lexemes)
      (readPrimary finish budget (⟨.ident name, text, offset⟩ :: rest)) := by
  intro place held hplace hdrop hheld
  rw [readPrimary]
  refine .succ ?_
  simp only [primary]
  exact .step (runFrom_peek_of_drop hdrop) (agrees_skip_pure hdrop)

theorem follows_parenthesized {text : List Char} {offset : Nat}
    (hc : Follows lexemes budget rest (conditional finish lexemes)
      (readConditional finish budget rest)) :
    Follows lexemes budget (⟨.mark .openParen, text, offset⟩ :: rest) (primary finish lexemes)
      (readPrimary finish budget (⟨.mark .openParen, text, offset⟩ :: rest)) := by
  intro place held hplace hdrop hheld
  obtain ⟨hlt, -, hrest⟩ := of_drop_eq_cons hdrop
  rw [readPrimary]
  refine .succ ?_
  simp only [primary]
  refine .step (runFrom_peek_of_drop hdrop) (.step (runFrom_skip _) ?_)
  refine (hc (place + 1) held hlt hrest.symm hheld).bind ?_
  intro inner place₁ hle₁ hlt₁
  exact .expect fun hlt₂ => .pure hlt₂ (by omega)

theorem follows_primary_mark {mark : Mark} {text : List Char} {offset : Nat}
    (hmark : mark = .openParen → False) :
    Follows lexemes budget (⟨.mark mark, text, offset⟩ :: rest) (primary finish lexemes)
      (readPrimary finish budget (⟨.mark mark, text, offset⟩ :: rest)) := by
  intro place held hplace hdrop hheld
  have hread : readPrimary finish budget (⟨.mark mark, text, offset⟩ :: rest) =
      failAt finish (lexemes.drop place) (.unexpectedMark mark.text) := by
    rw [readPrimary, hdrop]
    exact hmark
  rw [hread]
  refine .succ ?_
  simp only [primary]
  refine .step (runFrom_peek_of_drop hdrop) ?_
  cases mark
  case openParen => exact (hmark rfl).elim
  all_goals exact .refuse _

end

variable (finish lexemes)

/-- **Routines and readers agree.** Each routine with a cursor does what the reader of its phrase
does with the lexemes that are left and the budget that is left. -/
theorem follows :
    (∀ budget rest, Follows lexemes budget rest (conditional finish lexemes)
      (readConditional finish budget rest)) ∧
    (∀ budget levels rest, Follows lexemes budget rest (binary finish lexemes levels)
      (readBinary finish budget levels rest)) ∧
    (∀ budget operators tighter left rest, FollowsOn lexemes budget rest
      (chain finish lexemes operators tighter left)
      (readChain finish budget operators tighter left rest)) ∧
    (∀ budget rest, Follows lexemes budget rest (unary finish lexemes)
      (readUnary finish budget rest)) ∧
    (∀ budget rest, Follows lexemes budget rest (linked finish lexemes)
      (readPostfix finish budget rest)) ∧
    (∀ budget operand rest, FollowsOn lexemes budget rest (access finish lexemes operand)
      (readLinks finish budget operand rest)) ∧
    (∀ budget fuel rest, FollowsArguments lexemes budget fuel rest (arguments finish lexemes)
      (readArguments finish budget fuel rest)) ∧
    (∀ budget fuel rest args, FollowsArguments lexemes budget fuel rest
      (moreArguments finish lexemes args)
      (mapRead (args ++ ·) (readMoreArguments finish budget fuel rest))) ∧
    (∀ budget rest, Follows lexemes budget rest (primary finish lexemes)
      (readPrimary finish budget rest)) := by
  refine readConditional.mutual_induct
    (fun budget rest => Follows lexemes budget rest (conditional finish lexemes)
      (readConditional finish budget rest))
    (fun budget levels rest => Follows lexemes budget rest (binary finish lexemes levels)
      (readBinary finish budget levels rest))
    (fun budget operators tighter left rest => FollowsOn lexemes budget rest
      (chain finish lexemes operators tighter left)
      (readChain finish budget operators tighter left rest))
    (fun budget rest => Follows lexemes budget rest (unary finish lexemes)
      (readUnary finish budget rest))
    (fun budget rest => Follows lexemes budget rest (linked finish lexemes)
      (readPostfix finish budget rest))
    (fun budget operand rest => FollowsOn lexemes budget rest (access finish lexemes operand)
      (readLinks finish budget operand rest))
    (fun budget fuel rest => FollowsArguments lexemes budget fuel rest (arguments finish lexemes)
      (readArguments finish budget fuel rest))
    (fun budget fuel rest => ∀ args, FollowsArguments lexemes budget fuel rest
      (moreArguments finish lexemes args)
      (mapRead (args ++ ·) (readMoreArguments finish budget fuel rest)))
    (fun budget rest => Follows lexemes budget rest (primary finish lexemes)
      (readPrimary finish budget rest))
    ?conditionalZero ?conditional ?binaryNil ?binaryCons ?chainEnd ?chainZero ?chain ?unaryMark
    ?prefixedZero ?prefixed ?unaryOther ?linked ?memberZero ?member ?dotOther ?index ?call
    ?callOther ?linksEnd ?argumentsNil ?arguments ?moreArguments ?primaryNil ?number ?string ?name
    ?parenthesized ?primaryMark
  case conditionalZero => exact fun rest => follows_conditional_zero
  case conditional => exact fun rest budget => follows_conditional
  case binaryNil => exact fun budget rest => follows_binary_nil
  case binaryCons => exact fun budget rest operators tighter => follows_binary_cons
  case chainEnd => exact fun budget operators tighter left rest => followsOn_chain_end
  case chainZero => exact fun operators tighter left rest op after => followsOn_chain_zero
  case chain => exact fun operators tighter left rest op after hop budget => followsOn_chain hop
  case unaryMark =>
    intro budget mark text offset rest hnone ih
    have htake (m : Mark) (hm : (prefixOp? m).isSome = true) :
        takeMark? m (⟨.mark mark, text, offset⟩ :: rest) = none := by
      rw [takeMark?, if_neg]
      rintro rfl
      rw [hnone] at hm
      cases hm
    rw [readUnary, hnone]
    exact follows_unary_of_none (htake .not rfl) (htake .minus rfl) ih
  case prefixedZero => exact fun mark text offset rest op => follows_prefixed_zero
  case prefixed => exact fun mark text offset rest op hop budget => follows_prefixed hop
  case unaryOther =>
    intro budget rest hmark ih
    have htake (m : Mark) : takeMark? m rest = none := by
      rw [Option.eq_none_iff_forall_ne_some]
      intro after htake
      obtain ⟨⟨token, text, offset⟩, rfl, rfl⟩ := eq_cons_of_takeMark? htake
      exact hmark m text offset after rfl
    rw [readUnary]
    · exact follows_unary_of_none (htake .not) (htake .minus) ih
    · exact hmark
  case linked => exact fun budget rest => follows_linked
  case memberZero =>
    exact fun operand text offset name text' offset' rest => followsOn_member_zero
  case member =>
    exact fun operand text offset name text' offset' rest budget => followsOn_member
  case dotOther => exact fun budget operand text offset rest => followsOn_dot_other
  case index =>
    intro budget operand text offset rest hp hl
    exact followsOn_index hp fun n hn => by subst hn; exact hl
  case call =>
    intro budget text offset rest name ha hl
    exact followsOn_call ha fun n hn => by subst hn; exact hl
  case callOther => exact fun budget operand text offset rest => followsOn_not_callable
  case linksEnd =>
    intro budget operand rest hdot hbracket hparenthesis
    have htake (m : Mark) (hm : ∀ text offset after,
        rest = ⟨.mark m, text, offset⟩ :: after → False) : takeMark? m rest = none := by
      rw [Option.eq_none_iff_forall_ne_some]
      intro after htake
      obtain ⟨⟨token, text, offset⟩, rfl, rfl⟩ := eq_cons_of_takeMark? htake
      exact hm text offset after rfl
    rw [readLinks]
    · exact followsOn_access_end (htake .dot hdot) (htake .openBracket hbracket)
        (htake .openParen hparenthesis)
    · exact hdot
    · exact hbracket
    · exact hparenthesis
  case argumentsNil => exact fun budget fuel rest after => followsArguments_nil
  case arguments => exact fun budget fuel rest hnone ih => followsArguments hnone ih
  case moreArguments =>
    intro budget fuel rest hc hm
    exact followsArguments_more hc fun n hn => by subst hn; exact hm
  case primaryNil => exact fun budget => follows_primary_nil
  case number => exact fun budget x text offset rest => follows_number
  case string => exact fun budget s text offset rest => follows_string
  case name => exact fun budget name text offset rest => follows_name
  case parenthesized => exact fun budget text offset rest => follows_parenthesized
  case primaryMark => exact fun budget mark text offset rest => follows_primary_mark

/-! ## Balance -/

/-- What a routine comes to from a cursor, next to a reader of the lexemes after it. -/
structure IsBalanced (x : Nat → Counting α) (c : Cursor)
    (r : Except ExprError (α × List Lexeme)) : Prop where
  ends : ∃ outcome, ComesTo x c outcome
  not_overdrawn : ¬ComesTo x c (.error .overdrawn)
  refused_iff : ∀ e, ComesTo x c (.error (.refused e)) ↔ r = .error e
  read : ∀ a c', ComesTo x c (.ok (a, c')) →
    c.place < c'.place ∧ c'.place ≤ lexemes.length ∧ c'.held = c.held ∧
      r = .ok (a, lexemes.drop c'.place)

variable {finish lexemes}

theorem Agrees.isBalanced {x : Nat → Counting α} {c : Cursor}
    {r : Except ExprError (α × List Lexeme)} (h : Agrees lexemes (c.place < ·) c.held x c r) :
    IsBalanced lexemes x c r := by
  cases r with
  | error e =>
      have hrun : ComesTo x c (.error (.refused e)) := h
      constructor
      · exact ⟨_, hrun⟩
      · intro hover
        cases hrun.unique hover
      · intro e'
        constructor
        · intro hrefused
          cases hrun.unique hrefused
          rfl
        · rintro ⟨⟩
          exact hrun
      · intro a c' hread
        cases hrun.unique hread
  | ok read =>
      obtain ⟨a, rest⟩ := read
      obtain ⟨place, hle, hlt, rfl, hrun⟩ := h
      constructor
      · exact ⟨_, hrun⟩
      · intro hover
        cases hrun.unique hover
      · refine fun e => iff_of_false (fun hrefused => ?_) (fun h => by cases h)
        cases hrun.unique hrefused
      · intro a' c' hread
        obtain ⟨rfl, rfl⟩ := Prod.mk.inj (Except.ok.inj (hrun.unique hread))
        exact ⟨hlt, hle, rfl, rfl⟩

/-- The place where a routine ends that agrees with a reader is one of the goal. -/
theorem Agrees.goal_of_ok {goal : Nat → Prop} {held : Nat} {x : Nat → Counting α} {c c' : Cursor}
    {a : α} {r : Except ExprError (α × List Lexeme)} (h : Agrees lexemes goal held x c r)
    (hread : ComesTo x c (.ok (a, c'))) : goal c'.place := by
  cases r with
  | error e =>
      have hrun : ComesTo x c (.error (.refused e)) := h
      cases hrun.unique hread
  | ok read =>
      obtain ⟨a', rest⟩ := read
      obtain ⟨place, -, hgoal, -, hrun⟩ := h
      obtain ⟨rfl, rfl⟩ := Prod.mk.inj (Except.ok.inj (hrun.unique hread))
      exact hgoal

/-- A reader is followed from every cursor that leaves it its budget. -/
theorem Follows.isBalanced {x : Nat → Counting α} {c : Cursor}
    {read : Nat → List Lexeme → Except ExprError (α × List Lexeme)}
    (h : ∀ budget rest, Follows lexemes budget rest x (read budget rest))
    (hplace : c.place ≤ lexemes.length) (hheld : c.held ≤ maxDepth) :
    IsBalanced lexemes x c (read (maxDepth - c.held) (lexemes.drop c.place)) :=
  (h (maxDepth - c.held) _ c.place c.held hplace rfl (by omega)).isBalanced

/-- The routine for whole texts ends, with what the reader of whole texts gives. -/
theorem runFrom_whole : ∃ enough, ∀ stack, enough ≤ stack →
    (runFrom (whole finish lexemes stack) ⟨0, 0⟩).map (Except.map Prod.fst) =
      some ((ofLexemes finish lexemes).mapError .refused) := by
  have hagrees := (follows finish lexemes).1 maxDepth _ 0 0 (Nat.zero_le _) rfl (Nat.zero_add _)
  rw [List.drop_zero] at hagrees
  by_cases hempty : lexemes = []
  · refine ⟨0, fun stack _ => ?_⟩
    rw [whole, ofLexemes, if_pos hempty, if_pos hempty]
    rfl
  · rw [ofLexemes, if_neg hempty]
    cases hread : readConditional finish maxDepth lexemes with
    | error e =>
        rw [hread] at hagrees
        have hrun : ComesTo (conditional finish lexemes) ⟨0, 0⟩ (.error (.refused e)) := hagrees
        refine hrun.imp fun enough h stack hstack => ?_
        rw [whole, if_neg hempty, runFrom_bind_of_error (h stack hstack)]
        rfl
    | ok read =>
        obtain ⟨e, rest⟩ := read
        rw [hread] at hagrees
        obtain ⟨place, hle, hlt, rfl, hrun⟩ := hagrees
        refine hrun.imp fun enough h stack hstack => ?_
        rw [whole, if_neg hempty, runFrom_bind_of_ok (h stack hstack), ok_bind]
        dsimp only
        cases hrest : lexemes.drop place with
        | nil =>
            rw [runFrom_bind_of_ok (runFrom_peek_of_drop_nil hrest), if_pos rfl]
            rfl
        | cons lexeme after =>
            rw [runFrom_bind_of_ok (runFrom_peek_of_drop hrest), if_neg (List.cons_ne_nil _ _),
              failAt, ← hrest, List.head?_drop]
            rfl

/-- Reading a text with counters ends, and gives what reading it with a budget gives. -/
theorem ofChars_eq (text : List Char) : ∃ enough, ∀ stack, enough ≤ stack →
    Counting.ofChars text stack = some ((Expr.ofChars text).mapError .refused) := by
  unfold Counting.ofChars Expr.ofChars
  cases hlexemes : Lexeme.ofText text with
  | error e => exact ⟨0, fun _ _ => rfl⟩
  | ok lexemes => exact runFrom_whole

/-- **The readers make progress and balance their budget.** From a cursor that stands within the
lexemes, and holds no more units than there are, each routine ends. It never gives back more than is
held. It is refused exactly if the reader with the units that are left is refused, with its error.
Where it reads something, it has gone forward, stands within the lexemes, holds what it held before,
and has read what the reader reads. The arguments of a call end right after a closing parenthesis.
A whole text is always read to its end. -/
theorem balanced (finish : Nat) (lexemes : List Lexeme) (c : Cursor)
    (hplace : c.place ≤ lexemes.length) (hheld : c.held ≤ maxDepth) :
    IsBalanced lexemes (conditional finish lexemes) c
      (readConditional finish (maxDepth - c.held) (lexemes.drop c.place)) ∧
    (∀ levels, IsBalanced lexemes (binary finish lexemes levels) c
      (readBinary finish (maxDepth - c.held) levels (lexemes.drop c.place))) ∧
    IsBalanced lexemes (unary finish lexemes) c
      (readUnary finish (maxDepth - c.held) (lexemes.drop c.place)) ∧
    IsBalanced lexemes (linked finish lexemes) c
      (readPostfix finish (maxDepth - c.held) (lexemes.drop c.place)) ∧
    IsBalanced lexemes (primary finish lexemes) c
      (readPrimary finish (maxDepth - c.held) (lexemes.drop c.place)) ∧
    IsBalanced lexemes (arguments finish lexemes) c
      (readArguments finish (maxDepth - c.held) (lexemes.drop c.place).length
        (lexemes.drop c.place)) ∧
    (∀ args c', ComesTo (arguments finish lexemes) c (.ok (args, c')) →
      IsAfterClose lexemes c'.place) ∧
    ∀ text, ∃ enough, ∀ stack, enough ≤ stack →
      Counting.ofChars text stack = some ((Expr.ofChars text).mapError .refused) := by
  obtain ⟨hconditional, hbinary, -, hunary, hlinked, -, harguments, -, hprimary⟩ :=
    follows finish lexemes
  have hread := harguments (maxDepth - c.held) (lexemes.drop c.place).length _ c.place c.held hplace
    rfl (by omega) (Nat.le_refl _)
  refine ⟨?conditional, ?binary, ?unary, ?linked, ?primary, ?arguments, ?close, ?text⟩
  case conditional => exact Follows.isBalanced hconditional hplace hheld
  case binary => exact fun levels => Follows.isBalanced (hbinary · levels) hplace hheld
  case unary => exact Follows.isBalanced hunary hplace hheld
  case linked => exact Follows.isBalanced hlinked hplace hheld
  case primary => exact Follows.isBalanced hprimary hplace hheld
  case arguments => exact (hread.imp fun _ h => h.1).isBalanced
  case close => exact fun args c' h => (hread.goal_of_ok h).2
  case text => exact ofChars_eq

/-- The arguments of a call, with three units held. -/
theorem balanced_arguments :
    ∃ lexemes, Lexeme.ofText "f(a,-b)".toList = .ok lexemes ∧ 2 ≤ lexemes.length ∧ 3 ≤ maxDepth ∧
      ComesTo (arguments 7 lexemes) ⟨2, 3⟩
        (.ok ([.ident "a", .unary .neg (.ident "b")], ⟨7, 3⟩)) ∧
      IsAfterClose lexemes 7 := by
  obtain ⟨lexemes, hlexemes, hlength, hread⟩ : ∃ lexemes,
      Lexeme.ofText "f(a,-b)".toList = .ok lexemes ∧ lexemes.length = 7 ∧
        readArguments 7 (maxDepth - 3) (lexemes.drop 2).length (lexemes.drop 2) =
          .ok ([.ident "a", .unary .neg (.ident "b")], []) :=
    ⟨[⟨.ident "f", ['f'], 0⟩, ⟨.mark .openParen, ['('], 1⟩, ⟨.ident "a", ['a'], 2⟩,
      ⟨.mark .comma, [','], 3⟩, ⟨.mark .minus, ['-'], 4⟩, ⟨.ident "b", ['b'], 5⟩,
      ⟨.mark .closeParen, [')'], 6⟩], by cbv, rfl, by cbv⟩
  have hplace : 2 ≤ lexemes.length := by omega
  have hheld : 3 ≤ maxDepth := by decide
  obtain ⟨-, -, -, -, -, harguments, hclose, -⟩ := balanced 7 lexemes ⟨2, 3⟩ hplace hheld
  have hrun : ComesTo (arguments 7 lexemes) ⟨2, 3⟩
      (.ok ([.ident "a", .unary .neg (.ident "b")], ⟨7, 3⟩)) := by
    obtain ⟨outcome, hends⟩ := harguments.ends
    rcases outcome with (e | _) | ⟨args, ⟨place, held⟩⟩
    · have hrefused := (harguments.refused_iff e).1 hends
      rw [hread] at hrefused
      cases hrefused
    · exact absurd hends harguments.not_overdrawn
    · obtain ⟨-, hle, hsame, hsound⟩ := harguments.read args ⟨place, held⟩ hends
      rw [hread] at hsound
      obtain ⟨rfl, hdrop⟩ := Prod.mk.inj (Except.ok.inj hsound)
      have hend : lexemes.length ≤ place := List.drop_eq_nil_iff.1 hdrop.symm
      obtain rfl : held = 3 := hsame
      obtain rfl : place = 7 := by
        dsimp only at hle
        omega
      exact hends
  exact ⟨lexemes, hlexemes, hplace, hheld, hrun, hclose _ _ hrun⟩

end

end Widgetry.Expr.Counting
