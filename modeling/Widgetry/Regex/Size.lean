import Widgetry.Regex.Basic

/-!
# The size of a regular expression

An expression is compiled to states, and one that takes more than ten mebibytes is not used. The
size is computed on the tree: a repetition costs its part as often as it is unrolled, so the
states themselves are never built.
-/

namespace Widgetry.Regex

/-- What compiling takes: states, and bytes that states hold beside themselves. -/
structure Cost where
  states : Nat
  extra : Nat

namespace Cost

def add (a b : Cost) : Cost :=
  ⟨a.states + b.states, a.extra + b.extra⟩

/-- The cost of `n` copies. -/
def times (n : Nat) (c : Cost) : Cost :=
  ⟨n * c.states, n * c.extra⟩

/-- The cost of `n` states without more. -/
def ofStates (n : Nat) : Cost :=
  ⟨n, 0⟩

/-- The cost of `n` branches out of one state. -/
def branches (n : Nat) : Cost :=
  ⟨0, 4 * n⟩

/-- The bytes of all states. -/
def bytes (c : Cost) : Nat :=
  32 * c.states + c.extra

end Cost

mutual

/-- Whether the expression matches the empty text somewhere. -/
def matchesEmpty : Regex → Bool
  | .empty => true
  | .char _ => false
  | .set _ => false
  | .look _ => true
  | .repeated min _ part => min = 0 || matchesEmpty part
  | .group _ _ part => matchesEmpty part
  | .seq parts => allMatchEmpty parts
  | .alt branches => someMatchesEmpty branches

def allMatchEmpty : List Regex → Bool
  | [] => true
  | r :: rest => matchesEmpty r && allMatchEmpty rest

def someMatchesEmpty : List Regex → Bool
  | [] => false
  | r :: rest => matchesEmpty r || someMatchesEmpty rest

end

/-- The cost of a repetition whose part costs `part`. An unbounded one loops over its last copy;
where the part can be empty and need not occur, a second state keeps the loop from going on. A
bounded one puts an exit before each copy that may be left out. -/
def repetitionCost (min : Nat) (max : Option Nat) (canBeEmpty : Bool) (part : Cost) : Cost :=
  let copies (n : Nat) : Cost := if n = 0 then .ofStates 1 else part.times n
  match min, max with
  | 0, some 1 => (part.add (.ofStates 2)).add (.branches 2)
  | 0, none =>
    if canBeEmpty then (part.add (.ofStates 3)).add (.branches 4)
    else (part.add (.ofStates 1)).add (.branches 2)
  | _, none => ((copies min).add (.ofStates 1)).add (.branches 2)
  | _, some most =>
    if most ≤ min then copies min
    else
      let optional := (part.add (.ofStates 1)).add (.branches 2)
      ((copies min).add (.ofStates 1)).add (optional.times (most - min))

mutual

/-- The cost of an expression. -/
def cost : Regex → Cost
  | .empty => .ofStates 1
  | .char _ => .ofStates 1
  | .set s => ⟨1, 8 * s.ranges.length⟩
  | .look _ => .ofStates 1
  | .repeated min max part => repetitionCost min max (matchesEmpty part) (cost part)
  | .group _ _ part => (cost part).add (.ofStates 2)
  | .seq parts => costSum parts
  | .alt branches => ((costSum branches).add (.ofStates 2)).add (.branches branches.length)

/-- The cost of several expressions together. -/
def costSum : List Regex → Cost
  | [] => .ofStates 0
  | r :: rest => (cost r).add (costSum rest)

end

mutual

/-- The greatest index of a group in an expression. -/
def lastGroup : Regex → Nat
  | .repeated _ _ part => lastGroup part
  | .group index _ part => max index (lastGroup part)
  | .seq parts => lastGroupAmong parts
  | .alt branches => lastGroupAmong branches
  | _ => 0

def lastGroupAmong : List Regex → Nat
  | [] => 0
  | r :: rest => max (lastGroup r) (lastGroupAmong rest)

end

mutual

/-- The bytes that the names of groups take. -/
def nameBytes : Regex → Nat
  | .repeated _ _ part => nameBytes part
  | .group _ name part => name.elim 0 (fun name => name.utf8ByteSize + 4) + nameBytes part
  | .seq parts => nameBytesSum parts
  | .alt branches => nameBytesSum branches
  | _ => 0

def nameBytesSum : List Regex → Nat
  | [] => 0
  | r :: rest => nameBytes r + nameBytesSum rest

end

/-- The bytes that the groups of an expression take: 16 for each index up to the greatest one that
is left, also if the groups before it were repeated no times and are gone, and those of the names.
The whole expression is a group of index zero. -/
def groupBytes (r : Regex) : Nat :=
  16 * (lastGroup r + 1) + nameBytes r

/-- The bytes that a compiled expression takes. The whole is a group of its own, and one more
state stands for a match. -/
def size (r : Regex) : Nat :=
  ((cost r).add (.ofStates 3)).bytes + groupBytes r

/-- The greatest size of an expression that is used. -/
def maxSize : Nat :=
  10 * 1024 * 1024

end Widgetry.Regex
