/-!
# Lexemes

The smallest pieces of a query: words, quoted phrases, operators between clauses, modifiers in
front of a clause, and parentheses.
-/

namespace TextQuery.Query

/-- A binary operator between two clauses. -/
inductive Operator where
  | and
  | or
  deriving DecidableEq, Repr

/-- The spelling used in messages. -/
def Operator.spelling : Operator → String
  | .and => "AND"
  | .or => "OR"

/-- A mark in front of a clause. -/
inductive Modifier where
  /-- `+`: the clause is required. -/
  | plus
  /-- `-`: the clause is prohibited. -/
  | minus
  /-- `NOT`: the clause is prohibited. -/
  | not
  deriving DecidableEq, Repr

/-- The spelling used in messages. -/
def Modifier.spelling : Modifier → String
  | .plus => "+"
  | .minus => "-"
  | .not => "NOT"

/-- A piece of a query. -/
inductive Lexeme where
  /-- An unquoted word, exactly as written. -/
  | word (text : String)
  /-- What stands between two double quotes. -/
  | phrase (text : String)
  | operator (op : Operator)
  | modifier (m : Modifier)
  | openParen
  | closeParen
  deriving DecidableEq, Repr

/-- The lexeme as messages show it. -/
def Lexeme.spelling : Lexeme → String
  | .word text | .phrase text => text
  | .operator op => op.spelling
  | .modifier m => m.spelling
  | .openParen => "("
  | .closeParen => ")"

/-- A lexeme with the byte offset where it starts. -/
structure Placed where
  lexeme : Lexeme
  offset : Nat
  deriving DecidableEq, Repr

end TextQuery.Query
