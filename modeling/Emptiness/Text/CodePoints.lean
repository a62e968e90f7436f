/-!
# Sets of code points

A set of characters is given by a table of closed code point intervals. Every character class of this
library that goes beyond ASCII is such a table.
-/

namespace Emptiness.Text

/-- Closed intervals of code points, in ascending order. -/
abbrev CodePoints := List (Nat × Nat)

/-- Membership of a code point in a table of intervals. -/
def CodePoints.covers (table : CodePoints) (n : Nat) : Bool :=
  table.any fun interval => interval.1 ≤ n && n ≤ interval.2

/-- Membership of a character in a table of intervals. -/
def CodePoints.has (table : CodePoints) (c : Char) : Bool :=
  table.covers c.toNat

end Emptiness.Text
