import Widgetry.Proofs.Expr.Counting
import Widgetry.Proofs.Expr.Soundness

/-!
# Agreement of a routine and a reader

What the steps of a routine come to, and what it is for a routine with a cursor to do what a reader
with a budget does. Agreement is composed as routines are: each step of a routine has a lemma, and
the goal on the place where the routine ends is free, so that it can say how far it has gone.
-/

namespace Widgetry.Expr.Counting

section

variable {α β : Type} {finish : Nat} {lexemes : List Lexeme}

/-! ## Steps of a routine -/

theorem runFrom_bind (x : Counting α) (f : α → Counting β) (c : Cursor) :
    runFrom (x >>= f) c =
      (runFrom x c >>= ExceptT.bindCont fun read : α × Cursor => runFrom (f read.1) read.2) := rfl

theorem runFrom_bind_of_ok {x : Counting α} {c c' : Cursor} {a : α}
    (h : runFrom x c = some (.ok (a, c'))) (f : α → Counting β) :
    runFrom (x >>= f) c = runFrom (f a) c' := by
  rw [runFrom_bind, h]
  rfl

theorem runFrom_bind_of_error {x : Counting α} {c : Cursor} {e : Stop}
    (h : runFrom x c = some (.error e)) (f : α → Counting β) :
    runFrom (x >>= f) c = some (.error e) := by
  rw [runFrom_bind, h]
  rfl

theorem runFrom_get (c : Cursor) : runFrom (get : Counting Cursor) c = some (.ok (c, c)) := rfl

theorem runFrom_modify (f : Cursor → Cursor) (c : Cursor) :
    runFrom (modify f : Counting Unit) c = some (.ok ((), f c)) := rfl

theorem runFrom_peek (c : Cursor) :
    runFrom (peek lexemes) c = some (.ok ((lexemes[c.place]?).map Lexeme.token, c)) := rfl

theorem runFrom_eat (mark : Mark) (c : Cursor) :
    runFrom (eat lexemes mark) c =
      if (lexemes[c.place]?).map Lexeme.token = some (.mark mark) then
        some (.ok (true, ⟨c.place + 1, c.held⟩))
      else some (.ok (false, c)) := by
  rw [eat, runFrom_bind_of_ok (runFrom_peek c)]
  split
  · rfl
  · rfl

theorem runFrom_hold (c : Cursor) :
    runFrom (hold finish lexemes) c =
      if maxDepth < c.held + 1 then
        runFrom (refuse finish lexemes .tooDeep) ⟨c.place, c.held + 1⟩
      else some (.ok ((), ⟨c.place, c.held + 1⟩)) := by
  rw [hold, runFrom_bind_of_ok (runFrom_modify _ c), runFrom_bind_of_ok (runFrom_get _)]
  split
  · rfl
  · rfl

theorem runFrom_release (place held units : Nat) :
    runFrom (release units) ⟨place, held + units⟩ = some (.ok ((), ⟨place, held⟩)) := by
  have hle : ¬held + units < units := Nat.not_lt.2 (Nat.le_add_left units held)
  rw [release, runFrom_bind_of_ok (runFrom_get _), if_neg hle]
  dsimp only
  rw [Nat.add_sub_cancel]
  rfl

theorem runFrom_skip (c : Cursor) :
    runFrom skip c = some (.ok ((), ⟨c.place + 1, c.held⟩)) := rfl

/-! ## Where a cursor stands -/

theorem of_drop_eq_cons {place : Nat} {lexeme : Lexeme} {rest : List Lexeme}
    (h : lexemes.drop place = lexeme :: rest) :
    place < lexemes.length ∧ lexemes[place]? = some lexeme ∧ rest = lexemes.drop (place + 1) := by
  have hlt : place < lexemes.length := by
    refine Nat.lt_of_not_le fun hle => ?_
    rw [List.drop_eq_nil_of_le hle] at h
    cases h
  rw [List.drop_eq_getElem_cons hlt] at h
  obtain ⟨rfl, rfl⟩ := List.cons.inj h
  exact ⟨hlt, List.getElem?_eq_getElem hlt, rfl⟩

theorem of_takeMark?_drop {mark : Mark} {place : Nat} {rest : List Lexeme}
    (h : takeMark? mark (lexemes.drop place) = some rest) :
    place < lexemes.length ∧ (lexemes[place]?).map Lexeme.token = some (.mark mark) ∧
      rest = lexemes.drop (place + 1) := by
  obtain ⟨lexeme, htoken, hdrop⟩ := eq_cons_of_takeMark? h
  obtain ⟨hlt, hnext, hrest⟩ := of_drop_eq_cons hdrop
  exact ⟨hlt, by rw [hnext, Option.map_some, htoken], hrest⟩

theorem ne_of_takeMark?_drop {mark : Mark} {place : Nat}
    (h : takeMark? mark (lexemes.drop place) = none) :
    (lexemes[place]?).map Lexeme.token ≠ some (.mark mark) := by
  intro hnext
  obtain ⟨⟨token, text, offset⟩, hget, rfl⟩ := Option.map_eq_some_iff.1 hnext
  obtain ⟨hlt, hget⟩ := List.getElem?_eq_some_iff.1 hget
  rw [List.drop_eq_getElem_cons hlt, hget, takeMark?, if_pos rfl] at h
  cases h

theorem takeMark?_of_drop {mark : Mark} {text : List Char} {offset place : Nat} {rest : List Lexeme}
    (h : lexemes.drop place = ⟨.mark mark, text, offset⟩ :: rest) (m : Mark) :
    takeMark? m (lexemes.drop place) = if mark = m then some rest else none := by
  rw [h, takeMark?]

theorem runFrom_peek_of_drop {place now : Nat} {lexeme : Lexeme} {rest : List Lexeme}
    (h : lexemes.drop place = lexeme :: rest) :
    runFrom (peek lexemes) ⟨place, now⟩ = some (.ok (some lexeme.token, ⟨place, now⟩)) := by
  rw [runFrom_peek, (of_drop_eq_cons h).2.1]
  rfl

theorem runFrom_peek_of_drop_nil {place now : Nat} (h : lexemes.drop place = []) :
    runFrom (peek lexemes) ⟨place, now⟩ = some (.ok (none, ⟨place, now⟩)) := by
  rw [runFrom_peek, List.getElem?_eq_none (List.drop_eq_nil_iff.1 h)]
  rfl

theorem takeOperator?_entry_cons (entry : Mark × BinaryOp) (more : List (Mark × BinaryOp))
    (rest : List Lexeme) :
    takeOperator? (entry :: more) rest = match takeMark? entry.1 rest with
      | some after => some (entry.2, after)
      | none => takeOperator? more rest := by
  unfold takeOperator? takeMark?
  split
  · rename_i mark text offset after
    rw [List.find?_cons]
    by_cases h : entry.1 = mark
    · simp [h]
    · simp [h, Ne.symm h]
  · rfl

/-- An operator is taken as the reader takes it. -/
theorem runFrom_eatOperator (lexemes : List Lexeme) (operators : List (Mark × BinaryOp))
    (place now : Nat) :
    runFrom (eatOperator lexemes operators) ⟨place, now⟩ =
      match takeOperator? operators (lexemes.drop place) with
      | some (op, _) => some (.ok (some op, ⟨place + 1, now⟩))
      | none => some (.ok (none, ⟨place, now⟩)) := by
  induction operators with
  | nil =>
      have hnone : takeOperator? [] (lexemes.drop place) = none := by
        unfold takeOperator?
        split <;> rfl
      rw [hnone]
      rfl
  | cons entry more ih =>
      rw [takeOperator?_entry_cons]
      cases hmark : takeMark? entry.1 (lexemes.drop place) with
      | none =>
          have hnext := ne_of_takeMark?_drop hmark
          rw [eatOperator, runFrom_bind_of_ok ((runFrom_eat _ _).trans (if_neg hnext))]
          exact ih
      | some rest =>
          have hnext := (of_takeMark?_drop hmark).2.1
          rw [eatOperator, runFrom_bind_of_ok ((runFrom_eat _ _).trans (if_pos hnext))]
          rfl

theorem runFrom_eatOperator_of_none {operators : List (Mark × BinaryOp)} {place : Nat} (now : Nat)
    (h : takeOperator? operators (lexemes.drop place) = none) :
    runFrom (eatOperator lexemes operators) ⟨place, now⟩ = some (.ok (none, ⟨place, now⟩)) := by
  rw [runFrom_eatOperator, h]

theorem runFrom_eatOperator_of_some {operators : List (Mark × BinaryOp)} {op : BinaryOp}
    {place : Nat} {rest : List Lexeme} (now : Nat)
    (h : takeOperator? operators (lexemes.drop place) = some (op, rest)) :
    place < lexemes.length ∧ rest = lexemes.drop (place + 1) ∧
      runFrom (eatOperator lexemes operators) ⟨place, now⟩ =
        some (.ok (some op, ⟨place + 1, now⟩)) := by
  obtain ⟨mark, lexeme, -, -, hdrop⟩ := eq_cons_of_takeOperator? h
  obtain ⟨hlt, -, hrest⟩ := of_drop_eq_cons hdrop
  refine ⟨hlt, hrest, ?_⟩
  rw [runFrom_eatOperator, h]

/-! ## Outcomes -/

theorem comesTo_of_runFrom {x : Counting α} {c : Cursor} {outcome : Except Stop (α × Cursor)}
    (h : runFrom x c = some outcome) : ComesTo (fun _ => x) c outcome :=
  ⟨0, fun _ _ => h⟩

namespace ComesTo

variable {x : Nat → Counting α} {f : Nat → α → Counting β} {c c' : Cursor} {a : α}
  {outcome outcome' : Except Stop (α × Cursor)}

/-- A routine comes to one outcome at most. -/
theorem unique (h : ComesTo x c outcome) (h' : ComesTo x c outcome') : outcome = outcome' := by
  obtain ⟨n, h⟩ := h
  obtain ⟨n', h'⟩ := h'
  have hrun := h (max n n') (Nat.le_max_left n n')
  rw [h' (max n n') (Nat.le_max_right n n')] at hrun
  exact (Option.some.inj hrun).symm

/-- A call takes a place on the stack. -/
theorem succ (h : ComesTo (fun stack => x (stack + 1)) c outcome) : ComesTo x c outcome := by
  obtain ⟨n, h⟩ := h
  refine ⟨n + 1, fun stack hstack => ?_⟩
  obtain ⟨stack, rfl⟩ := Nat.exists_eq_add_of_le' (Nat.le_of_add_left_le hstack)
  exact h stack (Nat.le_of_add_le_add_right hstack)

theorem bind_of_ok {outcome : Except Stop (β × Cursor)} (h : ComesTo x c (.ok (a, c')))
    (hf : ComesTo (fun stack => f stack a) c' outcome) :
    ComesTo (fun stack => x stack >>= f stack) c outcome := by
  obtain ⟨n, h⟩ := h
  obtain ⟨n', hf⟩ := hf
  refine ⟨max n n', fun stack hstack => ?_⟩
  rw [runFrom_bind_of_ok (h stack (Nat.le_trans (Nat.le_max_left n n') hstack))]
  exact hf stack (Nat.le_trans (Nat.le_max_right n n') hstack)

theorem bind_of_error {e : Stop} (h : ComesTo x c (.error e)) :
    ComesTo (fun stack => x stack >>= f stack) c (.error e) := by
  obtain ⟨n, h⟩ := h
  exact ⟨n, fun stack hstack => runFrom_bind_of_error (h stack hstack) (f stack)⟩

end ComesTo

/-! ## Agreement -/

/-- What a routine comes to, next to what a reader comes to: the same error; or the same value, with
the cursor at a place of the goal before the lexemes that are left, and some units held. -/
def Agrees (lexemes : List Lexeme) (goal : Nat → Prop) (held : Nat) (x : Nat → Counting α)
    (c : Cursor) : Except ExprError (α × List Lexeme) → Prop
  | .error e => ComesTo x c (.error (.refused e))
  | .ok (a, rest) => ∃ place ≤ lexemes.length, goal place ∧ lexemes.drop place = rest ∧
      ComesTo x c (.ok (a, ⟨place, held⟩))

namespace Agrees

variable {goal goal' : Nat → Prop} {place now held held' : Nat} {x y : Nat → Counting α}
  {c c' : Cursor} {r : Except ExprError (α × List Lexeme)} {r' : Except ExprError (β × List Lexeme)}

theorem imp (h : Agrees lexemes goal held x c r) (hgoal : ∀ place, goal place → goal' place) :
    Agrees lexemes goal' held x c r := by
  cases r with
  | error e => exact h
  | ok read =>
      obtain ⟨place, hle, hplace, hread⟩ := h
      exact ⟨place, hle, hgoal place hplace, hread⟩

theorem map {y : Nat → Counting α} (h : Agrees lexemes goal held x c r)
    (hxy : ∀ outcome, ComesTo x c outcome → ComesTo y c' outcome) :
    Agrees lexemes goal held y c' r := by
  cases r with
  | error e => exact hxy _ h
  | ok read =>
      obtain ⟨place, hle, hplace, hrest, hrun⟩ := h
      exact ⟨place, hle, hplace, hrest, hxy _ hrun⟩

/-- A call of a routine. -/
theorem succ (h : Agrees lexemes goal held (fun stack => x (stack + 1)) c r) :
    Agrees lexemes goal held x c r :=
  h.map fun _ => ComesTo.succ

/-- A step of the routine alone. -/
theorem step {x : Counting α} {f : Nat → α → Counting β} {a : α}
    (h : runFrom x c = some (.ok (a, c')))
    (hf : Agrees lexemes goal held (fun stack => f stack a) c' r') :
    Agrees lexemes goal held (fun stack => x >>= f stack) c r' :=
  hf.map fun _ => (comesTo_of_runFrom h).bind_of_ok

/-- A part of the routine, and a part of the reader. -/
theorem bind {f : Nat → α → Counting β}
    {g : α × List Lexeme → Except ExprError (β × List Lexeme)}
    (h : Agrees lexemes goal held x c r)
    (hf : ∀ a place, place ≤ lexemes.length → goal place →
      Agrees lexemes goal' held' (fun stack => f stack a) ⟨place, held⟩
        (g (a, lexemes.drop place))) :
    Agrees lexemes goal' held' (fun stack => x stack >>= f stack) c (r >>= g) := by
  cases r with
  | error e => exact ComesTo.bind_of_error h
  | ok read =>
      obtain ⟨a, rest⟩ := read
      obtain ⟨place, hle, hplace, rfl, hrun⟩ := h
      exact (hf a place hle hplace).map fun _ => hrun.bind_of_ok

theorem pure {a : α} (hle : place ≤ lexemes.length) (hgoal : goal place) :
    Agrees lexemes goal held (fun _ => pure a) ⟨place, held⟩ (.ok (a, lexemes.drop place)) :=
  ⟨place, hle, hgoal, rfl, comesTo_of_runFrom rfl⟩

theorem refuse (cause : SyntaxError) :
    Agrees lexemes goal held (fun _ => refuse finish lexemes cause) ⟨place, now⟩
      (failAt finish (lexemes.drop place) cause : Except ExprError (α × List Lexeme)) := by
  have hhead : (lexemes.drop place).head? = lexemes[place]? := List.head?_drop
  rw [failAt, hhead]
  exact comesTo_of_runFrom rfl

theorem eat_of_some {mark : Mark} {rest : List Lexeme}
    (hmark : takeMark? mark (lexemes.drop place) = some rest)
    (h : place < lexemes.length → rest = lexemes.drop (place + 1) →
      Agrees lexemes goal held x ⟨place + 1, now⟩ r) :
    Agrees lexemes goal held
      (fun stack => eat lexemes mark >>= fun b => if b = true then x stack else y stack)
      ⟨place, now⟩ r := by
  obtain ⟨hlt, hnext, hrest⟩ := of_takeMark?_drop hmark
  exact step ((runFrom_eat mark _).trans (if_pos hnext)) (h hlt hrest)

theorem eat_of_none {mark : Mark} (hmark : takeMark? mark (lexemes.drop place) = none)
    (h : Agrees lexemes goal held y ⟨place, now⟩ r) :
    Agrees lexemes goal held
      (fun stack => eat lexemes mark >>= fun b => if b = true then x stack else y stack)
      ⟨place, now⟩ r :=
  step ((runFrom_eat mark _).trans (if_neg (ne_of_takeMark?_drop hmark))) h

theorem expect {mark : Mark} {f : Nat → Unit → Counting β}
    {g : List Lexeme → Except ExprError (β × List Lexeme)}
    (h : place < lexemes.length → Agrees lexemes goal held (fun stack => f stack ())
      ⟨place + 1, now⟩ (g (lexemes.drop (place + 1)))) :
    Agrees lexemes goal held (fun stack => Counting.expect finish lexemes mark >>= f stack)
      ⟨place, now⟩ (Expr.expect finish mark (lexemes.drop place) >>= g) := by
  rw [Expr.expect]
  cases hmark : takeMark? mark (lexemes.drop place) with
  | none =>
      have hrefused : Agrees lexemes goal held (fun _ => Counting.expect finish lexemes mark)
          ⟨place, now⟩ (failAt finish (lexemes.drop place) (.expectedMark mark.text)) :=
        eat_of_none hmark (refuse _)
      exact ComesTo.bind_of_error hrefused
  | some rest =>
      obtain ⟨hlt, hnext, rfl⟩ := of_takeMark?_drop hmark
      have htaken : runFrom (Counting.expect finish lexemes mark) ⟨place, now⟩ =
          some (.ok ((), ⟨place + 1, now⟩)) := by
        rw [Counting.expect, runFrom_bind_of_ok ((runFrom_eat mark _).trans (if_pos hnext))]
        rfl
      exact step htaken (h hlt)

theorem hold {f : Nat → Unit → Counting α} (hnow : now < maxDepth)
    (h : Agrees lexemes goal held (fun stack => f stack ()) ⟨place, now + 1⟩ r) :
    Agrees lexemes goal held (fun stack => Counting.hold finish lexemes >>= f stack)
      ⟨place, now⟩ r :=
  step ((runFrom_hold _).trans (if_neg (Nat.not_lt.2 hnow))) h

theorem hold_full {f : Nat → Unit → Counting α} (hnow : now = maxDepth) :
    Agrees lexemes goal held (fun stack => Counting.hold finish lexemes >>= f stack) ⟨place, now⟩
      (failAt finish (lexemes.drop place) .tooDeep) := by
  have hfull : runFrom (Counting.hold finish lexemes) ⟨place, now⟩ =
      runFrom (Counting.refuse finish lexemes .tooDeep) ⟨place, now + 1⟩ :=
    (runFrom_hold _).trans (if_pos (Nat.lt_succ_of_le (Nat.le_of_eq hnow.symm)))
  have hrefused : Agrees lexemes goal held (fun _ => Counting.hold finish lexemes) ⟨place, now⟩
      (failAt finish (lexemes.drop place) .tooDeep) :=
    (refuse .tooDeep).map fun _ h => h.imp fun _ h stack hstack => hfull.trans (h stack hstack)
  exact ComesTo.bind_of_error hrefused

/-- The end of a routine: it gives back what it has held. -/
theorem release_pure {a : α} {units : Nat} (hle : place ≤ lexemes.length) (hgoal : goal place) :
    Agrees lexemes goal held (fun _ => release units >>= fun _ => Pure.pure a)
      ⟨place, held + units⟩ (.ok (a, lexemes.drop place)) :=
  step (runFrom_release place held units) (pure hle hgoal)

end Agrees

end

end Widgetry.Expr.Counting
