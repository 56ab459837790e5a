import Widgetry.Expr.Coercion
import Widgetry.Expr.Error
import Widgetry.Pattern
import Widgetry.Text.Lowercase
import Widgetry.Text.Uppercase

/-!
# Functions of expressions

An expression can call the functions of a table and nothing else. A function has a fixed number of
arguments, and is given exactly so many.
-/

namespace Widgetry

/-- A function of expressions. -/
structure Function where
  arity : Nat
  run : (Fin arity → Json) → Except ExprError Json

/-- The functions that can be called, by name. -/
abbrev Functions := Table String Function

namespace Functions

/-- Calls the function of a name, if there is one and the number of arguments is its own. -/
def call (functions : Functions) (name : String) (args : List Json) : Except ExprError Json :=
  match functions.get? name with
  | none => .error (.unknownFunction name)
  | some f =>
    if h : args.length = f.arity then f.run fun i => args[i.val]
    else .error (.arity name f.arity args.length)

end Functions

namespace Function

/-- A function of one argument that has a value for every argument. -/
def total (f : Json → Json) : Function :=
  ⟨1, fun args => .ok (f (args 0))⟩

/-- A function of two arguments that has a value for all arguments. -/
def total₂ (f : Json → Json → Json) : Function :=
  ⟨2, fun args => .ok (f (args 0) (args 1))⟩

/-- The number of characters of a string, items of an array, or fields of an object. -/
def length? : Json → Except ExprError Nat
  | .str s => .ok s.length
  | .arr items => .ok items.length
  | .obj fields => .ok fields.length
  | .null => .ok 0
  | v => .error (.noLength v)

/-- Whether a value is a number or the text of one. -/
def isNumeric : Json → Bool
  | .num _ => true
  | .str s => Widgetry.isNumeric s
  | _ => false

/-- Whether a text is accepted by the pattern of a source; no pattern accepts everything. -/
def acceptedBy (text source : String) : Bool :=
  (Pattern.read? source).all fun p => p.accepts text

def len : Function :=
  ⟨1, fun args => (length? (args 0)).map fun n => .int n⟩

def trim : Function :=
  total fun v => .str (Text.trimString v.display)

def lower : Function :=
  total fun v => .str (Text.lower v.display)

def upper : Function :=
  total fun v => .str (Text.upper v.display)

def numeric : Function :=
  total fun v => .bool (isNumeric v)

def accepted : Function :=
  total₂ fun text source => .bool (acceptedBy text.display source.display)

end Function

/-- The functions that every expression may have. -/
def Functions.standard : Functions :=
  .ofList
    [("len", .len), ("trim", .trim), ("lower", .lower), ("upper", .upper),
      ("isNumeric", .numeric), ("matches", .accepted)]

end Widgetry
