import Widgetry.Regex.CharSet

/-!
# Regular expressions

A regular expression is a tree of characters, sets, conditions on a place between two characters,
repetitions, groups, sequences and choices. It says which texts match, not which of several
matches is taken, so no repetition is greedy or lazy. `nests` and `sequence`, `choice` and
`repetition` keep trees small: one item is no sequence, one branch no choice, and a repetition of
exactly one is its part.
-/

namespace Widgetry

namespace Regex

/-- A condition on a place in a text. -/
inductive Look where
  | textStart
  | textEnd
  | lineStart
  | lineEnd
  | lineStartCRLF
  | lineEndCRLF
  | wordBoundary
  | noWordBoundary
  | wordStart
  | wordEnd
  | wordStartHalf
  | wordEndHalf
deriving DecidableEq

/-- Whether a character, if there is one, belongs to a word. -/
def isWordChar (c : Option Char) : Bool :=
  c.any CharSet.wordChars.contains

/-- Whether the condition holds between two characters, each of which may be absent at an end of
the text. A line ends before and begins after a line feed; in the `CRLF` forms a carriage return
counts too, and the two together count as one. -/
def Look.holds (look : Look) (before after : Option Char) : Bool :=
  match look with
  | textStart => before.isNone
  | textEnd => after.isNone
  | lineStart => before.isNone || before == some '\n'
  | lineEnd => after.isNone || after == some '\n'
  | lineStartCRLF =>
    before.isNone || before == some '\n' || (before == some '\r' && after != some '\n')
  | lineEndCRLF =>
    after.isNone || after == some '\r' || (after == some '\n' && before != some '\r')
  | wordBoundary => isWordChar before != isWordChar after
  | noWordBoundary => isWordChar before == isWordChar after
  | wordStart => !isWordChar before && isWordChar after
  | wordEnd => isWordChar before && !isWordChar after
  | wordStartHalf => !isWordChar before
  | wordEndHalf => !isWordChar after

end Regex

/-- A regular expression. A group carries the index that it has among all groups of the text, and
its name if it has one. -/
inductive Regex where
  | empty
  | char (c : Char)
  | set (s : Regex.CharSet)
  | look (condition : Regex.Look)
  | repeated (min : Nat) (max : Option Nat) (part : Regex)
  | group (index : Nat) (name : Option String) (part : Regex)
  | seq (parts : List Regex)
  | alt (branches : List Regex)
deriving Inhabited

namespace Regex

/-- The parts one after the other. -/
def sequence : List Regex → Regex
  | [] => .empty
  | [r] => r
  | parts => .seq parts

/-- One of the branches. -/
def choice : List Regex → Regex
  | [r] => r
  | branches => .alt branches

/-- The part at least `min` and at most `max` times. -/
def repetition (min : Nat) (max : Option Nat) (part : Regex) : Regex :=
  if min = 0 ∧ max = some 0 then .empty
  else if min = 1 ∧ max = some 1 then part
  else .repeated min max part

mutual

/-- How many steps down the deepest part lies. -/
def height : Regex → Nat
  | .repeated _ _ part => height part + 1
  | .group _ _ part => height part + 1
  | .seq parts => heightAbove parts
  | .alt branches => heightAbove branches
  | _ => 0

/-- How many steps down the deepest part lies under a node with the given parts. -/
def heightAbove : List Regex → Nat
  | [] => 0
  | part :: rest => max (height part + 1) (heightAbove rest)

end

end Regex

end Widgetry
