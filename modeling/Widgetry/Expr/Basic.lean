import Widgetry.Json.Basic

/-!
# Expressions

The expression of a binding computes a JSON value from the names in its scope: operators, member
and index access, calls of known functions, and choices. `height` is the length of the longest
path from the root to a leaf, which is how deep an evaluation recurses.
-/

namespace Widgetry

inductive UnaryOp where
  | not
  | neg
deriving DecidableEq

inductive BinaryOp where
  | or
  | and
  | looseEq
  | looseNe
  | strictEq
  | strictNe
  | lt
  | le
  | gt
  | ge
  | add
  | sub
  | mul
  | div
  | rem
deriving DecidableEq

/-- An expression. -/
inductive Expr where
  | literal (v : Json)
  /-- A name of the scope. -/
  | ident (name : String)
  /-- The member of an object under a fixed name. -/
  | member (object : Expr) (name : String)
  /-- The member of an object, or the item of an array, under a computed one. -/
  | index (object position : Expr)
  | call (function : String) (args : List Expr)
  | unary (op : UnaryOp) (operand : Expr)
  | binary (op : BinaryOp) (left right : Expr)
  | conditional (condition yes no : Expr)
deriving Inhabited

namespace Expr

mutual

/-- The length of the longest path from the root to a leaf. -/
def height : Expr → Nat
  | .literal _ => 0
  | .ident _ => 0
  | .member object _ => object.height + 1
  | .index object position => max object.height position.height + 1
  | .call _ args => heightAbove args
  | .unary _ operand => operand.height + 1
  | .binary _ left right => max left.height right.height + 1
  | .conditional condition yes no => max condition.height (max yes.height no.height) + 1

/-- The length of the longest path through one of some parts. -/
def heightAbove : List Expr → Nat
  | [] => 0
  | e :: rest => max (e.height + 1) (heightAbove rest)

end

end Expr

end Widgetry
