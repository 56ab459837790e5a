import Widgetry.Json.Record

/-!
# Rules of properties

A rule says which values a property may have, and what the widget works with when it has another
one. Rules for arrays and objects are built from rules for their parts.
-/

namespace Widgetry

/-- What an object gets for a key that it lacks. -/
inductive KeyDefault where
  | absent
  | value (v : Json)
  /-- A key that is drawn for the purpose. -/
  | generated
deriving Inhabited

/-- A key of an object, with the rule for its value. -/
structure KeyOf (ρ : Type) where
  name : String
  rule : ρ
  default : KeyDefault
deriving Inhabited

/-- A rule for the value of a property. -/
inductive Rule where
  | text
  | boolean
  | number (min max default : Option Finite64)
  /-- The source of a pattern. -/
  | regex
  | safeUrl (default : Option String)
  /-- An array, whose items may have a rule. -/
  | array (item : Option Rule)
  /-- An object; keys that are not listed are left as they are. -/
  | object (keys : List (KeyOf Rule))
  /-- The label of one of the tabs of the widget. -/
  | tabName
deriving Inhabited

/-- A key of an object, with the rule for its value. -/
abbrev ObjectKey := KeyOf Rule

/-- The kinds of rules. -/
inductive RuleKind where
  | text
  | boolean
  | number
  | regex
  | safeUrl
  | array
  | object
  | tabName
deriving DecidableEq

namespace RuleKind

def all : List RuleKind :=
  [text, boolean, number, regex, safeUrl, array, object, tabName]

def name : RuleKind → String
  | text => "TEXT"
  | boolean => "BOOLEAN"
  | number => "NUMBER"
  | regex => "REGEX"
  | safeUrl => "SAFE_URL"
  | array => "ARRAY"
  | object => "OBJECT"
  | tabName => "TAB_NAME"

def ofName? (name : String) : Option RuleKind :=
  all.find? fun kind => kind.name = name

end RuleKind

def Rule.kind : Rule → RuleKind
  | .text => .text
  | .boolean => .boolean
  | .number _ _ _ => .number
  | .regex => .regex
  | .safeUrl _ => .safeUrl
  | .array _ => .array
  | .object _ => .object
  | .tabName => .tabName

end Widgetry
