import Widgetry.Rule.Basic
import Widgetry.Expr.Coercion

/-!
# Outcomes of validation

Validating a value gives the value that the widget works with, and what is wrong with the value if
something is. What is wrong with a part of a value is told with the place of the part.
-/

namespace Widgetry

/-- A finite number as a value: an integer where it is one below `2 ^ 63`, up or down. -/
def Json.ofFinite (x : Finite64) : Json :=
  match x.toInt? with
  | some n => if n.natAbs < 1 <<< 63 then .int n else .num (.float x)
  | none => .num (.float x)

/-- What is wrong with a value. -/
inductive Problem where
  | notText
  | notBoolean
  | notNumber
  | belowMin (min : Finite64)
  | aboveMax (max : Finite64)
  | notRegex
  /-- The source of a pattern is no expression. -/
  | literalRegex
  | notUrl
  | notArray
  | notObject
  | notTabName
  | noSuchTab (name : String)
  | item (index : Nat) (problem : Problem)
  | key (name : String) (problem : Problem)
deriving DecidableEq

/-- The words for a problem. -/
def Problem.message : Problem → String
  | .notText => "This value does not evaluate to type string"
  | .notBoolean => "This value does not evaluate to type boolean"
  | .notNumber => "This value does not evaluate to type number"
  | .belowMin min => s!"Minimum allowed value: {(Json.ofFinite min).write}"
  | .aboveMax max => s!"Maximum allowed value: {(Json.ofFinite max).write}"
  | .notRegex => "This value does not evaluate to type regex"
  | .literalRegex => "Unsupported regex pattern, it is matched as literal text"
  | .notUrl => "Please provide a valid url"
  | .notArray => "This value does not evaluate to type Array"
  | .notObject => "This value does not evaluate to type Object"
  | .notTabName => "This value does not evaluate to type: Tab Name (string)"
  | .noSuchTab name => s!"Tab name {name} does not exist"
  | .item index problem => s!"Invalid entry at index: {index}. {problem.message}"
  | .key name problem => s!"Value of key: {name} is invalid. {problem.message}"

/-- The value to work with, and what is wrong with the value that was given. -/
structure Outcome where
  parsed : Json
  problem : Option Problem

namespace Outcome

def valid (parsed : Json) : Outcome :=
  ⟨parsed, none⟩

def invalid (parsed : Json) (problem : Problem) : Outcome :=
  ⟨parsed, some problem⟩

def isValid (o : Outcome) : Bool :=
  o.problem.isNone

def message? (o : Outcome) : Option String :=
  o.problem.map Problem.message

def toJson (o : Outcome) : Json :=
  .ofFields
    [("is_valid", some (.bool o.isValid)), ("parsed", some o.parsed),
      ("message", o.message?.map .str)]

/-- The first problem of a list of outcomes, with the place of its outcome counted from
`index`. -/
def firstProblem? (index : Nat) : List Outcome → Option Problem
  | [] => none
  | o :: rest =>
    match o.problem with
    | some problem => some (.item index problem)
    | none => firstProblem? (index + 1) rest

end Outcome

end Widgetry
