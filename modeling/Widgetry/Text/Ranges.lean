/-!
# Sets of characters as ranges

A property of characters is given by the ranges of code points that have it, in increasing order.
-/

namespace Widgetry.Text

/-- Ranges of code points, each with its two ends. -/
abbrev Ranges := List (Nat × Nat)

/-- Whether a character lies in one of the ranges. -/
def Ranges.contains (ranges : Ranges) (c : Char) : Bool :=
  ranges.any fun range => range.1 ≤ c.toNat && c.toNat ≤ range.2

end Widgetry.Text
