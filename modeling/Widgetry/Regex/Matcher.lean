import Widgetry.Regex.Parser
import Widgetry.Regex.Size

/-!
# Matching a regular expression

The places of an expression that consume a character carry a mark. A mark says that some match
has just consumed the last character there. Reading one character moves every mark to the places
that can come next and accept the character, so a text is matched in one pass whatever the
expression repeats. An expression matches when a marked place can be its last one.

`Marked` caches, at every inner place, whether marks are left below it and whether it can be
skipped, so that a step visits only the part of the tree where something happens.
-/

namespace Widgetry.Regex

/-- A place between two characters, either of which is absent at an end of the text. -/
structure Boundary where
  before : Option Char
  after : Option Char

/-- Whether an expression can match without consuming anything. -/
inductive Skip where
  | never
  | always
  /-- It depends on the conditions on the place. -/
  | byLook
deriving DecidableEq

/-- Skipping both of two expressions. -/
def Skip.both : Skip → Skip → Skip
  | .never, _ => .never
  | _, .never => .never
  | .always, .always => .always
  | _, _ => .byLook

/-- Skipping one of two expressions. -/
def Skip.either : Skip → Skip → Skip
  | .always, _ => .always
  | _, .always => .always
  | .never, .never => .never
  | _, _ => .byLook

/-- An expression with marks. -/
inductive Marked where
  | empty
  | atom (s : CharSet) (mark : Bool)
  | look (condition : Look)
  | seq (first second : Marked) (active : Bool) (skip : Skip)
  | alt (first second : Marked) (active : Bool) (skip : Skip)
  | star (part : Marked) (active : Bool)

namespace Marked

/-- Whether there is a mark. -/
def isActive : Marked → Bool
  | .atom _ mark => mark
  | .seq _ _ active _ => active
  | .alt _ _ active _ => active
  | .star _ active => active
  | _ => false

def skip : Marked → Skip
  | .empty => .always
  | .atom _ _ => .never
  | .look _ => .byLook
  | .seq _ _ _ skip => skip
  | .alt _ _ _ skip => skip
  | .star _ _ => .always

def mkSeq (a b : Marked) : Marked :=
  .seq a b (a.isActive || b.isActive) (a.skip.both b.skip)

def mkAlt (a b : Marked) : Marked :=
  .alt a b (a.isActive || b.isActive) (a.skip.either b.skip)

def mkStar (a : Marked) : Marked :=
  .star a a.isActive

/-- Whether the expression can be skipped at a place. -/
def skips (p : Boundary) : Marked → Bool
  | .empty => true
  | .atom _ _ => false
  | .look condition => condition.holds p.before p.after
  | .seq a b _ skip =>
    match skip with
    | .always => true
    | .never => false
    | .byLook => a.skips p && b.skips p
  | .alt a b _ skip =>
    match skip with
    | .always => true
    | .never => false
    | .byLook => a.skips p || b.skips p
  | .star _ _ => true

/-- Whether a marked place can be the last one, at a place in the text. -/
def ends (p : Boundary) : Marked → Bool
  | .atom _ mark => mark
  | .seq a b active _ => active && (b.ends p || (a.ends p && b.skips p))
  | .alt a b active _ => active && (a.ends p || b.ends p)
  | .star a active => active && a.ends p
  | _ => false

/-- Moves the marks over the character `c`, which comes after the place `p`. With `enter`, matches
begin at this place too. -/
def step (p : Boundary) (c : Char) (enter : Bool) : Marked → Marked
  | .atom s _ => .atom s (enter && s.contains c)
  | .seq a b active skip =>
    if enter || active then
      mkSeq (a.step p c enter) (b.step p c ((enter && a.skips p) || a.ends p))
    else .seq a b active skip
  | .alt a b active skip =>
    if enter || active then mkAlt (a.step p c enter) (b.step p c enter)
    else .alt a b active skip
  | .star a active =>
    if enter || active then mkStar (a.step p c (enter || a.ends p)) else .star a active
  | r => r

/-- Joins neighbours, the first with the second, the third with the fourth, and so on. -/
def joinPairs (join : Marked → Marked → Marked) : List Marked → List Marked
  | a :: b :: rest => join a b :: joinPairs join rest
  | rest => rest

/-- Joins all expressions of a list into a tree that is as low as can be, in `fuel` rounds. -/
def joinAll (join : Marked → Marked → Marked) (none : Marked) : Nat → List Marked → Marked
  | _, [] => none
  | _, [r] => r
  | 0, r :: _ => r
  | fuel + 1, rs => joinAll join none fuel (joinPairs join rs)

/-- The expressions of a list one after the other. -/
def sequence (rs : List Marked) : Marked :=
  joinAll mkSeq .empty rs.length rs

/-- The expressions of a list as branches. -/
def choice (rs : List Marked) : Marked :=
  joinAll mkAlt (.atom ⟨[]⟩ false) rs.length rs

/-- The expression `min` times, and then up to `max` times or as often as it goes. -/
def repetition (min : Nat) (max : Option Nat) (r : Marked) : Marked :=
  let required := List.replicate min r
  match max with
  | none => sequence (required ++ [mkStar r])
  | some most => sequence (required ++ List.replicate (most - min) (mkAlt r .empty))

mutual

/-- An expression without marks. -/
def ofRegex : Regex → Marked
  | .empty => .empty
  | .char c => .atom (.single c) false
  | .set s => .atom s false
  | .look condition => .look condition
  | .repeated min max part => repetition min max (ofRegex part)
  | .group _ _ part => ofRegex part
  | .seq parts => sequence (ofRegexes parts)
  | .alt branches => choice (ofRegexes branches)

def ofRegexes : List Regex → List Marked
  | [] => []
  | r :: rest => ofRegex r :: ofRegexes rest

end

/-- Whether a match ends somewhere in a text, whose character before it is `before`. With `enter`
matches begin at the first place, and with `anywhere` at every later one. -/
def finds (anywhere enter : Bool) (before : Option Char) (r : Marked) : List Char → Bool
  | [] => (enter && r.skips ⟨before, none⟩) || r.ends ⟨before, none⟩
  | c :: rest =>
    let p : Boundary := ⟨before, some c⟩
    if (enter && r.skips p) || r.ends p then true
    else finds anywhere anywhere (some c) (r.step p c enter) rest

end Marked

/-- An expression that is ready to match. -/
structure Compiled where
  text : String
  start : Marked

/-- Prepares the expression that a text writes, unless it writes none or one that is too large. -/
def compile? (text : String) : Option Compiled :=
  (ofText? text.toList).bind fun r =>
    if r.size ≤ maxSize then some ⟨text, .ofRegex r⟩ else none

/-- Whether the expression matches some part of a text. -/
def Compiled.matchesPart (r : Compiled) (text : String) : Bool :=
  r.start.finds true true none text.toList

/-- Whether the expression matches a beginning of a text. -/
def Compiled.matchesStart (r : Compiled) (text : String) : Bool :=
  r.start.finds false true none text.toList

example : ((compile? "^ab+(b|c)*$").map fun r =>
    ["abb", "abbcbc", "a", "aab"].map r.matchesPart) = some [true, true, false, false] := by
  decide +kernel

end Widgetry.Regex
