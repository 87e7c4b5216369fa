/-!
# Similar words

A word that is not known is compared with those that are, by the Jaro similarity: the share of
characters that both words have at about the same place, less half of those that are out of order.
-/

namespace TextQuery.CommandLine

/-- Takes the first character equal to `c` between two positions out of a list of characters that
are still free, with the position where it stands. -/
def claim (c : Char) (low high : Nat) : Nat → List (Char × Bool) → Option (List (Char × Bool))
  | _, [] => none
  | j, (d, free) :: rest =>
    if low ≤ j && j < high && free && c == d then some ((d, false) :: rest)
    else (claim c low high (j + 1) rest).map ((d, free) :: ·)

/-- Matches characters one after the other, the first at position `i`, within `range` of their own
position. Gives the characters that found a partner, and the others with what is still free. -/
def pair (range : Nat) : Nat → List Char → List (Char × Bool) → List Char × List (Char × Bool)
  | _, [], bs => ([], bs)
  | i, a :: as, bs =>
    match claim a (i - range) (i + range + 1) 0 bs with
    | some bs' =>
      let (found, left) := pair range (i + 1) as bs'
      (a :: found, left)
    | none => pair range (i + 1) as bs

/-- The similarity of two words, from 0 to 1. -/
def similarity (a b : String) : Float :=
  let as := a.toList
  let bs := b.toList
  if as.isEmpty && bs.isEmpty then 1
  else
    let range := max as.length bs.length / 2 - 1
    let (found, left) := pair range 0 as (bs.map (·, true))
    let partners := left.filterMap fun p => if p.2 then none else some p.1
    let common := found.length
    if common == 0 then 0
    else
      let displaced := ((found.zip partners).filter fun p => p.1 != p.2).length / 2
      let share (n d : Nat) : Float := n.toFloat / d.toFloat
      (share common as.length + share common bs.length + share (common - displaced) common) / 3

/-- The known words that are similar to a word, the most similar one last. -/
def similarTo (word : String) (known : List String) : List String :=
  let scored := (known.map fun k => (similarity word k, k)).filter fun p => p.1 > 0.7
  (scored.mergeSort fun p q => p.1 ≤ q.1).map (·.2)

end TextQuery.CommandLine
