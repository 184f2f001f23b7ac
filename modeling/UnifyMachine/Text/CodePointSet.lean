/-!
# Sets of code points

A character class taken from the Unicode database is stored as the sorted list of code points
at which membership flips: the first boundary opens a run of members, the second closes it, and
so on. A character belongs to the class exactly when an odd number of boundaries lie at or below
it, and that count is found by binary search.
-/

namespace UnifyMachine.Text

/-- A set of code points given by its sorted flip boundaries. -/
structure CodePointSet where
  /-- Strictly increasing code points; membership starts at even positions and ends at odd ones. -/
  bounds : Array Nat

namespace CodePointSet

/-- The number of boundaries in `[lo, hi)` that are at or below `c`, added to `lo`; the
boundaries are sorted, so this is the first position in `[lo, hi)` whose boundary exceeds `c`. -/
def rankFrom (s : CodePointSet) (c : Nat) (lo hi : Nat) : Nat :=
  if lo < hi then
    let mid := (lo + hi) / 2
    if s.bounds.getD mid 0 ≤ c then rankFrom s c (mid + 1) hi else rankFrom s c lo mid
  else lo
termination_by hi - lo

/-- The number of boundaries at or below `c`. -/
def rank (s : CodePointSet) (c : Nat) : Nat :=
  s.rankFrom c 0 s.bounds.size

/-- Whether the code point `c` is a member: an odd number of flips lie at or below it. -/
def containsCode (s : CodePointSet) (c : Nat) : Bool :=
  s.rank c % 2 == 1

/-- Whether the character `c` is a member. -/
def contains (s : CodePointSet) (c : Char) : Bool :=
  s.containsCode c.toNat

end CodePointSet

end UnifyMachine.Text
