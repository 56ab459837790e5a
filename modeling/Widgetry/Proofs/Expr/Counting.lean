import Widgetry.Expr.Parser

/-!
# Reading with counters

The readers of expressions are given the budget that is left, and give back the lexemes that are
left. Here are the same readers as routines that work in place: a cursor counts the lexemes that
have been taken and the units of depth that are held, and each unit is given back by hand. A chain
counts its links while it goes on, and gives back as many units at its end.

Nothing here says that a routine ends, that it goes forward, or that it gives back what it holds. The
routines may call each other without end, so each is run on a stack of some size, on which its calls
stand inside each other, and has no value if the stack is too small. What it comes to is the value
that it has on every stack that is large enough; a routine that goes on for ever comes to nothing.
One that gives back more units than are held stops as `overdrawn`.
-/

namespace Widgetry.Expr

/-- How many lexemes have been taken, and how many units of depth are held. -/
structure Cursor where
  place : Nat
  held : Nat

/-- Why a routine stops early. -/
inductive Stop where
  | refused (e : ExprError)
  /-- More units were to be given back than were held. -/
  | overdrawn

/-- A routine with a cursor. -/
abbrev Counting := StateT Cursor (ExceptT Stop Option)

namespace Counting

/-- What a routine gives from a cursor, if its stack is large enough. -/
def runFrom {α : Type} (x : Counting α) (c : Cursor) : Option (Except Stop (α × Cursor)) :=
  x c

/-- What a routine comes to from a cursor: it gives this on every stack that is large enough. -/
def ComesTo {α : Type} (x : Nat → Counting α) (c : Cursor)
    (outcome : Except Stop (α × Cursor)) : Prop :=
  ∃ enough, ∀ stack, enough ≤ stack → runFrom (x stack) c = some outcome

/-- No value: the stack is too small. -/
def giveUp {α : Type} : Counting α :=
  fun _ => ExceptT.mk none

section

-- `finish` is the place of the end of the text, in bytes.
variable (finish : Nat) (lexemes : List Lexeme)

/-- The next token. -/
def peek : Counting (Option Token) := do
  let c ← get
  return (lexemes[c.place]?).map Lexeme.token

/-- Takes a lexeme. -/
def skip : Counting Unit :=
  modify fun c => { c with place := c.place + 1 }

/-- An error at the next lexeme, or at the end of the text. -/
def refuse {α : Type} (cause : SyntaxError) : Counting α := do
  let c ← get
  throw (.refused (.syntaxError cause (lexemes[c.place]?.elim finish Lexeme.offset)))

/-- Takes a mark if it comes next. -/
def eat (mark : Mark) : Counting Bool := do
  if (← peek lexemes) = some (.mark mark) then
    skip
    return true
  else
    return false

/-- Takes a mark that has to come next. -/
def expect (mark : Mark) : Counting Unit := do
  if ← eat lexemes mark then
    return ()
  else
    refuse finish lexemes (.expectedMark mark.text)

/-- Takes one of some operators if it comes next. -/
def eatOperator : List (Mark × BinaryOp) → Counting (Option BinaryOp)
  | [] => return none
  | (mark, op) :: more => do
    if ← eat lexemes mark then
      return some op
    else
      eatOperator more

/-- Takes a unit of depth. -/
def hold : Counting Unit := do
  modify fun c => { c with held := c.held + 1 }
  if maxDepth < (← get).held then
    refuse finish lexemes .tooDeep
  else
    return ()

/-- Gives units of depth back. -/
def release (units : Nat) : Counting Unit := do
  let c ← get
  if c.held < units then
    throw .overdrawn
  else
    set { c with held := c.held - units }

mutual

/-- Reads a choice, or an expression of the binary levels. -/
def conditional (stack : Nat) : Counting Expr :=
  match stack with
  | 0 => giveUp
  | stack + 1 => do
    hold finish lexemes
    let condition ← binary operatorLevels stack
    if ← eat lexemes .question then
      let yes ← conditional stack
      expect finish lexemes .colon
      let no ← conditional stack
      release 1
      return .conditional condition yes no
    else
      release 1
      return condition

/-- Reads a chain of the loosest of some binary levels. -/
def binary (levels : List (List (Mark × BinaryOp))) (stack : Nat) : Counting Expr :=
  match stack with
  | 0 => giveUp
  | stack + 1 =>
    match levels with
    | [] => unary stack
    | operators :: tighter => do
      let left ← binary tighter stack
      chain operators tighter left 0 stack

/-- Goes on with a chain that has some links. -/
def chain (operators : List (Mark × BinaryOp)) (tighter : List (List (Mark × BinaryOp)))
    (left : Expr) (links stack : Nat) : Counting Expr :=
  match stack with
  | 0 => giveUp
  | stack + 1 => do
    match ← eatOperator lexemes operators with
    | some op =>
      hold finish lexemes
      let right ← binary tighter stack
      chain operators tighter (.binary op left right) (links + 1) stack
    | none =>
      release links
      return left

/-- Reads an operand with its prefix operators. -/
def unary (stack : Nat) : Counting Expr :=
  match stack with
  | 0 => giveUp
  | stack + 1 => do
    if ← eat lexemes .not then
      prefixed .not stack
    else if ← eat lexemes .minus then
      prefixed .neg stack
    else
      linked stack

/-- Reads an operand after a prefix operator. -/
def prefixed (op : UnaryOp) (stack : Nat) : Counting Expr :=
  match stack with
  | 0 => giveUp
  | stack + 1 => do
    hold finish lexemes
    let operand ← unary stack
    release 1
    return .unary op operand

/-- Reads an operand with the access and the calls after it. -/
def linked (stack : Nat) : Counting Expr :=
  match stack with
  | 0 => giveUp
  | stack + 1 => do
    let operand ← primary stack
    access operand 0 stack

/-- Goes on with the access and the calls after an operand that has some links. -/
def access (operand : Expr) (links stack : Nat) : Counting Expr :=
  match stack with
  | 0 => giveUp
  | stack + 1 => do
    if ← eat lexemes .dot then
      match ← peek lexemes with
      | some (.ident name) =>
        skip
        hold finish lexemes
        access (.member operand name) (links + 1) stack
      | _ => refuse finish lexemes .expectedMember
    else if ← eat lexemes .openBracket then
      let position ← conditional stack
      expect finish lexemes .closeBracket
      hold finish lexemes
      access (.index operand position) (links + 1) stack
    else if (← peek lexemes) = some (.mark .openParen) then
      match operand with
      | .ident name =>
        skip
        let args ← arguments stack
        hold finish lexemes
        access (.call name args) (links + 1) stack
      | _ => refuse finish lexemes .notCallable
    else
      release links
      return operand

/-- Reads the arguments of a call after its opening parenthesis. -/
def arguments (stack : Nat) : Counting (List Expr) :=
  match stack with
  | 0 => giveUp
  | stack + 1 => do
    if ← eat lexemes .closeParen then
      return []
    else
      moreArguments [] stack

/-- Reads at least one argument after those in `args`. -/
def moreArguments (args : List Expr) (stack : Nat) : Counting (List Expr) :=
  match stack with
  | 0 => giveUp
  | stack + 1 => do
    let arg ← conditional stack
    if ← eat lexemes .closeParen then
      return args ++ [arg]
    else
      expect finish lexemes .comma
      moreArguments (args ++ [arg]) stack

/-- Reads a literal, a name, or an expression in parentheses. -/
def primary (stack : Nat) : Counting Expr :=
  match stack with
  | 0 => giveUp
  | stack + 1 => do
    match ← peek lexemes with
    | none => refuse finish lexemes .unexpectedEnd
    | some (.number x) =>
      skip
      return .literal (.ofNumber x)
    | some (.string s) =>
      skip
      return .literal (.str s)
    | some (.ident name) =>
      skip
      return ofName name
    | some (.mark .openParen) =>
      skip
      let inner ← conditional stack
      expect finish lexemes .closeParen
      return inner
    | some (.mark mark) => refuse finish lexemes (.unexpectedMark mark.text)

end

/-- Reads an expression that takes all lexemes. -/
def whole (stack : Nat) : Counting Expr := do
  if lexemes = [] then
    throw (.refused (.syntaxError .empty 0))
  else
    let e ← conditional finish lexemes stack
    match ← peek lexemes with
    | none => return e
    | some _ => refuse finish lexemes .trailingInput

end

/-- What the text of an expression is read as, if the stack is large enough. -/
def ofChars (text : List Char) (stack : Nat) : Option (Except Stop Expr) :=
  match Lexeme.ofText text with
  | .error e => some (.error (.refused e))
  | .ok lexemes =>
    ((whole (Lexeme.byteSize text) lexemes stack).runFrom ⟨0, 0⟩).map (Except.map Prod.fst)

end Counting

end Widgetry.Expr
