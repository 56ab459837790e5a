import Widgetry.Expr.Token
import Widgetry.Expr.Coercion

/-!
# Reading an expression

The grammar has one level per precedence: a choice `a ? b : c`, six levels of binary operators that
group to the left, the two prefix operators, and access and calls after an operand. Reading goes
down the levels and takes lexemes from the front.

Depth is limited: nesting, prefix operators, and each operator or access in a chain take one unit
of a budget, and give it back at their end. The budget is the argument on which the functions
recurse, so that reading ends on every input.
-/

namespace Widgetry.Expr

/-- How deep an expression may nest. -/
def maxDepth : Nat := 128

/-- The operators of the binary levels, the loosest first. -/
def operatorLevels : List (List (Mark × BinaryOp)) :=
  [[(.or, .or)],
   [(.and, .and)],
   [(.strictEq, .strictEq), (.strictNe, .strictNe), (.looseEq, .looseEq), (.looseNe, .looseNe)],
   [(.le, .le), (.ge, .ge), (.lt, .lt), (.gt, .gt)],
   [(.plus, .add), (.minus, .sub)],
   [(.star, .mul), (.slash, .div), (.percent, .rem)]]

/-- The prefix operator of a mark. -/
def prefixOp? : Mark → Option UnaryOp
  | .not => some .not
  | .minus => some .neg
  | _ => none

/-- The operator of a level that a list of lexemes begins with, and the lexemes after it. -/
def takeOperator? (operators : List (Mark × BinaryOp)) :
    List Lexeme → Option (BinaryOp × List Lexeme)
  | ⟨.mark mark, _, _⟩ :: rest =>
    (operators.find? fun entry => entry.1 = mark).map fun entry => (entry.2, rest)
  | _ => none

/-- The lexemes after a mark that a list of them begins with. -/
def takeMark? (mark : Mark) : List Lexeme → Option (List Lexeme)
  | ⟨.mark m, _, _⟩ :: rest => if m = mark then some rest else none
  | _ => none

/-- The expression of a name, which may be that of a constant. -/
def ofName (name : String) : Expr :=
  match name with
  | "true" => .literal (.bool true)
  | "false" => .literal (.bool false)
  | "null" => .literal .null
  | "undefined" => .literal .null
  | _ => .ident name

/-- What reading a part of an expression gives: its tree and the lexemes after it. -/
abbrev Reading := Except ExprError (Expr × List Lexeme)

section

-- `finish` is the place of the end of the text, in bytes.
variable (finish : Nat)

/-- An error at the first of some lexemes, or at the end of the text. -/
def failAt {α : Type} (lexemes : List Lexeme) (cause : SyntaxError) : Except ExprError α :=
  .error (.syntaxError cause (lexemes.head?.elim finish Lexeme.offset))

/-- The lexemes after a mark that has to come next. -/
def expect (mark : Mark) (lexemes : List Lexeme) : Except ExprError (List Lexeme) :=
  match takeMark? mark lexemes with
  | some rest => .ok rest
  | none => failAt finish lexemes (.expectedMark mark.text)

mutual

/-- Reads a choice, or an expression of the binary levels. -/
def readConditional (budget : Nat) (lexemes : List Lexeme) : Reading :=
  match budget with
  | 0 => failAt finish lexemes .tooDeep
  | budget + 1 => do
    let (condition, rest) ← readBinary budget operatorLevels lexemes
    match takeMark? .question rest with
    | none => .ok (condition, rest)
    | some rest =>
      let (yes, rest) ← readConditional budget rest
      let rest ← expect finish .colon rest
      let (no, rest) ← readConditional budget rest
      .ok (.conditional condition yes no, rest)
termination_by (budget, 0, 0)

/-- Reads an operand of the tighter levels, and the chain of operators of this level after it. -/
def readBinary (budget : Nat) (levels : List (List (Mark × BinaryOp))) (lexemes : List Lexeme) :
    Reading :=
  match levels with
  | [] => readUnary budget lexemes
  | operators :: tighter => do
    let (left, rest) ← readBinary budget tighter lexemes
    readChain budget operators tighter left rest
termination_by (budget, 6 + levels.length, 0)

/-- Reads the operators of one level after the operand `left`, each with its right operand. -/
def readChain (budget : Nat) (operators : List (Mark × BinaryOp))
    (tighter : List (List (Mark × BinaryOp))) (left : Expr) (lexemes : List Lexeme) : Reading :=
  match takeOperator? operators lexemes with
  | none => .ok (left, lexemes)
  | some (op, rest) =>
    match budget with
    | 0 => failAt finish rest .tooDeep
    | budget + 1 => do
      let (right, rest) ← readBinary budget tighter rest
      readChain budget operators tighter (.binary op left right) rest
termination_by (budget, 5, 0)

/-- Reads an operand with its prefix operators. -/
def readUnary (budget : Nat) (lexemes : List Lexeme) : Reading :=
  match lexemes with
  | ⟨.mark mark, text, offset⟩ :: rest =>
    match prefixOp? mark with
    | none => readPostfix budget (⟨.mark mark, text, offset⟩ :: rest)
    | some op =>
      match budget with
      | 0 => failAt finish rest .tooDeep
      | budget + 1 => do
        let (operand, rest) ← readUnary budget rest
        .ok (.unary op operand, rest)
  | lexemes => readPostfix budget lexemes
termination_by (budget, 4, 0)

/-- Reads an operand with the access and the calls after it. -/
def readPostfix (budget : Nat) (lexemes : List Lexeme) : Reading := do
  let (operand, rest) ← readPrimary budget lexemes
  readLinks budget operand rest
termination_by (budget, 3, 0)

/-- Reads the access and the calls after the operand `operand`. Only a name can be called. -/
def readLinks (budget : Nat) (operand : Expr) (lexemes : List Lexeme) : Reading :=
  match lexemes with
  | ⟨.mark .dot, _, _⟩ :: rest =>
    match rest with
    | ⟨.ident name, _, _⟩ :: rest =>
      match budget with
      | 0 => failAt finish rest .tooDeep
      | budget + 1 => readLinks budget (.member operand name) rest
    | rest => failAt finish rest .expectedMember
  | ⟨.mark .openBracket, _, _⟩ :: rest => do
    let (position, rest) ← readConditional budget rest
    let rest ← expect finish .closeBracket rest
    match budget with
    | 0 => failAt finish rest .tooDeep
    | budget + 1 => readLinks budget (.index operand position) rest
  | ⟨.mark .openParen, text, offset⟩ :: rest =>
    match operand with
    | .ident name => do
      let (args, rest) ← readArguments budget rest.length rest
      match budget with
      | 0 => failAt finish rest .tooDeep
      | budget + 1 => readLinks budget (.call name args) rest
    | _ => failAt finish (⟨.mark .openParen, text, offset⟩ :: rest) .notCallable
  | lexemes => .ok (operand, lexemes)
termination_by (budget, 2, 0)

/-- Reads the arguments of a call after its opening parenthesis. -/
def readArguments (budget fuel : Nat) (lexemes : List Lexeme) :
    Except ExprError (List Expr × List Lexeme) :=
  match takeMark? .closeParen lexemes with
  | some rest => .ok ([], rest)
  | none => readMoreArguments budget fuel lexemes
termination_by (budget, 1, fuel + 1)

/-- Reads at least one argument and those after it, separated by commas. Each takes a lexeme, so
there are at most `fuel + 1`. -/
def readMoreArguments (budget fuel : Nat) (lexemes : List Lexeme) :
    Except ExprError (List Expr × List Lexeme) := do
  let (arg, rest) ← readConditional budget lexemes
  match takeMark? .closeParen rest with
  | some rest => .ok ([arg], rest)
  | none =>
    let rest ← expect finish .comma rest
    match fuel with
    | 0 => failAt finish rest .unexpectedEnd
    | fuel + 1 =>
      let (args, rest) ← readMoreArguments budget fuel rest
      .ok (arg :: args, rest)
termination_by (budget, 1, fuel)

/-- Reads a literal, a name, or an expression in parentheses. -/
def readPrimary (budget : Nat) (lexemes : List Lexeme) : Reading :=
  match lexemes with
  | [] => failAt finish [] .unexpectedEnd
  | ⟨.number x, _, _⟩ :: rest => .ok (.literal (.ofNumber x), rest)
  | ⟨.string s, _, _⟩ :: rest => .ok (.literal (.str s), rest)
  | ⟨.ident name, _, _⟩ :: rest => .ok (ofName name, rest)
  | ⟨.mark .openParen, _, _⟩ :: rest => do
    let (inner, rest) ← readConditional budget rest
    let rest ← expect finish .closeParen rest
    .ok (inner, rest)
  | ⟨.mark mark, text, offset⟩ :: rest =>
    failAt finish (⟨.mark mark, text, offset⟩ :: rest) (.unexpectedMark mark.text)
termination_by (budget, 1, 0)

end

/-- The tree of a list of lexemes, all of which it takes. -/
def ofLexemes (lexemes : List Lexeme) : Except ExprError Expr :=
  if lexemes = [] then .error (.syntaxError .empty 0)
  else do
    let (e, rest) ← readConditional finish maxDepth lexemes
    if rest = [] then .ok e else failAt finish rest .trailingInput

end

/-- The tree of the text of an expression. -/
def ofChars (text : List Char) : Except ExprError Expr := do
  let lexemes ← Lexeme.ofText text
  ofLexemes (Lexeme.byteSize text) lexemes

end Widgetry.Expr
