import Widgetry.Expr.Function

/-!
# The value of an expression

An expression is evaluated in a scope, which holds everything that it can see: its own widget
under the name `this`, other widgets by their names, and the functions. A member that does not
exist is `null`, so that a path through a sparse value does no harm.
-/

namespace Widgetry

/-- What an expression can see. -/
structure Scope where
  this : Json
  widgets : Table String Json
  functions : Functions

namespace Scope

/-- The value of a name. -/
def resolve? (scope : Scope) (name : String) : Option Json :=
  if name = "this" then some scope.this else scope.widgets.get? name

/-- The scope with one more widget. -/
def withWidget (scope : Scope) (name : String) (state : Json) : Scope :=
  { scope with widgets := scope.widgets.insert name state }

end Scope

/-- The member of a value. Arrays and strings have a length. -/
def Json.member (object : Json) (name : String) : Json :=
  match object with
  | .obj fields => Json.ofOption (Table.get? fields name)
  | .arr items => if name = "length" then .int items.length else .null
  | .str s => if name = "length" then .int s.length else .null
  | _ => .null

/-- The item of an array at a number that is a natural one, and otherwise the member under the
text of the index. -/
def Json.at (object position : Json) : Json :=
  match object, position with
  | .arr items, .num n => Json.ofOption (n.toNat?.bind fun i => items[i]?)
  | object, position => object.member position.display

namespace Expr

/-- Arithmetic on two values; where one of them counts as no number, the result is `null`. -/
def arithmetic (f : Binary64 → Binary64 → Binary64) (left right : Json) : Json :=
  match left.toNumber?, right.toNumber? with
  | some x, some y => .ofNumber (f x y)
  | _, _ => .null

/-- A comparison of two values, false where they have no order. -/
def comparison (accept : Ordering → Bool) (left right : Json) : Json :=
  .bool ((left.compare? right).any accept)

/-- The sum of two values: their texts joined if one is a string. -/
def sum (left right : Json) : Json :=
  if left.isString || right.isString then .str (left.display ++ right.display)
  else arithmetic .add left right

/-- The result of a binary operator on two values. Of `or` and `and` this is the value that
decides. -/
def applyBinary (op : BinaryOp) (left right : Json) : Json :=
  match op with
  | .or => if left.truthy then left else right
  | .and => if left.truthy then right else left
  | .looseEq => .bool (left.looseEq right)
  | .looseNe => .bool (!left.looseEq right)
  | .strictEq => .bool (left.strictEq right)
  | .strictNe => .bool (!left.strictEq right)
  | .lt => comparison (· == .lt) left right
  | .le => comparison (· != .gt) left right
  | .gt => comparison (· == .gt) left right
  | .ge => comparison (· != .lt) left right
  | .add => sum left right
  | .sub => arithmetic .sub left right
  | .mul => arithmetic .mul left right
  | .div => arithmetic .div left right
  | .rem => arithmetic .rem left right

/-- The result of a prefix operator on a value. -/
def applyUnary (op : UnaryOp) (v : Json) : Json :=
  match op with
  | .not => .bool (!v.truthy)
  | .neg => v.toNumber?.elim .null fun x => .ofNumber x.neg

/-- Whether the left operand alone decides a binary operator, so that the right one is not
evaluated. -/
def decidedBy (op : BinaryOp) (left : Json) : Bool :=
  match op with
  | .or => left.truthy
  | .and => !left.truthy
  | _ => false

mutual

/-- The value of an expression in a scope. -/
def eval (scope : Scope) : Expr → Except ExprError Json
  | .literal v => .ok v
  | .ident name =>
    match scope.resolve? name with
    | some v => .ok v
    | none => .error (.unknownIdentifier name)
  | .member object name => do
    let v ← eval scope object
    .ok (v.member name)
  | .index object position => do
    let v ← eval scope object
    let i ← eval scope position
    .ok (v.at i)
  | .call function args => do
    let vs ← evalAll scope args
    scope.functions.call function vs
  | .unary op operand => do
    let v ← eval scope operand
    .ok (applyUnary op v)
  | .binary op left right => do
    let l ← eval scope left
    if decidedBy op l then .ok l
    else do
      let r ← eval scope right
      .ok (applyBinary op l r)
  | .conditional condition yes no => do
    let c ← eval scope condition
    if c.truthy then eval scope yes else eval scope no

/-- The values of expressions from left to right, up to the first that has none. -/
def evalAll (scope : Scope) : List Expr → Except ExprError (List Json)
  | [] => .ok []
  | e :: rest => do
    let v ← eval scope e
    let vs ← evalAll scope rest
    .ok (v :: vs)

end

end Expr

end Widgetry
