/-!
# Sets of characters

A property of characters is a union of runs of code points. It is kept as the ascending list of
code points at which membership changes: the first bound starts a run, the second is the first
code point after it, and so on. A character belongs to the set when an odd number of bounds lie at
or below its code point.
-/

namespace TextQuery.Text

/-- A set of characters, by the ascending code points at which membership changes. -/
structure CodeSet where
  bounds : Array Nat

namespace CodeSet

/-- Narrows `[lo, hi)` by halving until every bound before `lo` is at most `code` and every bound
from `hi` on exceeds it. The first argument bounds the number of halvings. -/
def narrow (s : CodeSet) (code : Nat) : Nat → Nat → Nat → Nat
  | 0, lo, _ => lo
  | n + 1, lo, hi =>
    if lo < hi then
      let mid := (lo + hi) / 2
      if s.bounds.getD mid 0 ≤ code then s.narrow code n (mid + 1) hi
      else s.narrow code n lo mid
    else lo

/-- The number of bounds at or below `code`. -/
def rank (s : CodeSet) (code : Nat) : Nat :=
  s.narrow code s.bounds.size 0 s.bounds.size

/-- Membership: an odd number of changes up to the character. -/
def contains (s : CodeSet) (c : Char) : Bool :=
  s.rank c.toNat % 2 == 1

end CodeSet

end TextQuery.Text
