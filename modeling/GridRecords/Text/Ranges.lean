/-
# Sets of characters as ranges

The tables of Unicode properties are lists of ranges of code points in ascending order.
-/

namespace GridRecords.Text

/-- A set of code points: inclusive ranges, in ascending order. -/
abbrev Ranges := List (Nat × Nat)

/-- Whether a code point lies in one of the ranges.  The search ends at the first range
that starts above it. -/
def Ranges.contains : Ranges → Nat → Bool
  | [], _ => false
  | (first, last) :: rest, n =>
    if n < first then false else n ≤ last || Ranges.contains rest n

end GridRecords.Text
