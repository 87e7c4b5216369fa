import TextQuery.Token

/-!
# Compounds

A compound is a run of tokens in which every token after the first is joined to the one before it,
such as the two tokens of `foo-bar`.
-/

namespace TextQuery

/-- A non-empty run of joined tokens. -/
structure Compound where
  head : Token
  tail : List Token
  deriving DecidableEq, Repr

namespace Compound

/-- The tokens of the compound, in order. -/
def tokens (c : Compound) : List Token := c.head :: c.tail

/-- The number of tokens. -/
def size (c : Compound) : Nat := c.tokens.length

/-- Never true: a compound holds its head. -/
def isEmpty (c : Compound) : Bool := c.tokens.isEmpty

/-- The texts of the tokens, in order. -/
def texts (c : Compound) : List String := c.tokens.map Token.text

end Compound

/-- Splits a list of tokens into compounds: a new one starts at every token that is not joined. -/
def compounds : List Token → List Compound
  | [] => []
  | t :: ts =>
    ⟨t, ts.takeWhile Token.joined⟩ :: compounds (ts.dropWhile Token.joined)
termination_by ts => ts.length
decreasing_by
  have := (List.dropWhile_suffix Token.joined (l := ts)).length_le
  simp only [List.length_cons]
  omega

end TextQuery
