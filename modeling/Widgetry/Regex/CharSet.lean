/-!
# Sets of characters

A set is a list of ranges of code points in increasing order that neither overlap nor touch, so
a set has one list. `ofRanges` builds it from ranges in any order.
-/

namespace Widgetry.Regex

/-- A set of characters as ranges of code points with both ends. -/
structure CharSet where
  ranges : List (Nat × Nat)
deriving DecidableEq, Inhabited

namespace CharSet

/-- The greatest code point. -/
def maxCode : Nat := 0x10FFFF

def contains (s : CharSet) (c : Char) : Bool :=
  s.ranges.any fun r => r.1 ≤ c.toNat && c.toNat ≤ r.2

/-- Joins a range with those that follow it where they overlap or touch. -/
def join (first : Nat × Nat) : List (Nat × Nat) → List (Nat × Nat)
  | [] => [first]
  | r :: rest =>
    if r.1 ≤ first.2 + 1 then join (first.1, max first.2 r.2) rest
    else first :: join r rest

/-- Puts a range before the first one that does not begin below it. -/
def place (r : Nat × Nat) : List (Nat × Nat) → List (Nat × Nat)
  | [] => [r]
  | s :: rest => if r.1 ≤ s.1 then r :: s :: rest else s :: place r rest

/-- The set of the characters in some ranges. -/
def ofRanges (ranges : List (Nat × Nat)) : CharSet :=
  match ranges.foldr place [] with
  | [] => ⟨[]⟩
  | first :: rest => ⟨join first rest⟩

def single (c : Char) : CharSet :=
  ⟨[(c.toNat, c.toNat)]⟩

/-- The ranges between those of a list, from a first code point on. -/
def gaps (start : Nat) : List (Nat × Nat) → List (Nat × Nat)
  | [] => if start ≤ maxCode then [(start, maxCode)] else []
  | r :: rest =>
    if start < r.1 then (start, r.1 - 1) :: gaps (r.2 + 1) rest else gaps (r.2 + 1) rest

/-- The characters that are not in the set. -/
def negate (s : CharSet) : CharSet :=
  ⟨gaps 0 s.ranges⟩

/-- The other case of the ASCII letters in a range: of its lower-case ones if it has any, and else
of its upper-case ones. -/
def otherCase? (r : Nat × Nat) : Option (Nat × Nat) :=
  if r.1 ≤ 'z'.toNat ∧ 'a'.toNat ≤ r.2 then
    some (max r.1 'a'.toNat - 32, min r.2 'z'.toNat - 32)
  else if r.1 ≤ 'Z'.toNat ∧ 'A'.toNat ≤ r.2 then
    some (max r.1 'A'.toNat + 32, min r.2 'Z'.toNat + 32)
  else none

/-- The set with the other case of its ASCII letters. -/
def foldCase (s : CharSet) : CharSet :=
  ofRanges (s.ranges ++ s.ranges.filterMap otherCase?)

/-- The set of the ranges between pairs of characters. -/
def ofPairs (pairs : List (Char × Char)) : CharSet :=
  ofRanges (pairs.map fun p => (p.1.toNat, p.2.toNat))

def digits : CharSet := ofPairs [('0', '9')]

/-- The blanks of ASCII. -/
def spaces : CharSet := ofPairs [('\t', '\t'), ('\n', '\n'), ('\x0b', '\x0b'), ('\x0c', '\x0c'),
  ('\r', '\r'), (' ', ' ')]

/-- The characters of words: letters and digits of ASCII, and the low line. -/
def wordChars : CharSet := ofPairs [('0', '9'), ('A', 'Z'), ('_', '_'), ('a', 'z')]

def full : CharSet := ⟨[(0, maxCode)]⟩

/-- The sets that have a name between `[:` and `:]`. -/
def named? (name : String) : Option CharSet :=
  match name with
  | "alnum" => some (ofPairs [('0', '9'), ('A', 'Z'), ('a', 'z')])
  | "alpha" => some (ofPairs [('A', 'Z'), ('a', 'z')])
  | "ascii" => some (ofPairs [('\x00', '\x7f')])
  | "blank" => some (ofPairs [('\t', '\t'), (' ', ' ')])
  | "cntrl" => some (ofPairs [('\x00', '\x1f'), ('\x7f', '\x7f')])
  | "digit" => some digits
  | "graph" => some (ofPairs [('!', '~')])
  | "lower" => some (ofPairs [('a', 'z')])
  | "print" => some (ofPairs [(' ', '~')])
  | "punct" => some (ofPairs [('!', '/'), (':', '@'), ('[', '\x60'), ('\x7b', '~')])
  | "space" => some spaces
  | "upper" => some (ofPairs [('A', 'Z')])
  | "word" => some wordChars
  | "xdigit" => some (ofPairs [('0', '9'), ('A', 'F'), ('a', 'f')])
  | _ => none

end CharSet

end Widgetry.Regex
