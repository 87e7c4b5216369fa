/-!
# Query errors

What can be wrong with a query, where it was noticed, and how that is shown: a message, the query
with a caret under the place, and a hint.
-/

namespace TextQuery.Query

/-- What is wrong with a query. -/
inductive Problem where
  /-- A quote was opened and never closed. -/
  | unclosedQuote
  /-- A quoted phrase holds no word. -/
  | emptyPhrase
  /-- A parenthesis was opened and never closed. -/
  | unclosedParen
  /-- A closing parenthesis matches no opening one. -/
  | unexpectedCloseParen
  /-- A pair of parentheses encloses nothing. -/
  | emptyGroup
  /-- An operator lacks an operand. -/
  | missingOperand (operator : String)
  /-- A modifier is not followed by a clause. -/
  | danglingModifier (modifier : String)
  /-- A clause has a second modifier. -/
  | stackedModifier (modifier : String)
  /-- No clause of the query holds a word. -/
  | emptyQuery
  /-- The query is longer than the settings allow. -/
  | tooLong (length limit : Nat)
  deriving DecidableEq, Repr

namespace Problem

/-- The problem in words. -/
def message : Problem → String
  | .unclosedQuote => "unclosed quote"
  | .emptyPhrase => "empty phrase"
  | .unclosedParen => "expected closing parenthesis"
  | .unexpectedCloseParen => "unexpected closing parenthesis"
  | .emptyGroup => "empty group"
  | .missingOperand operator => operator ++ " needs an expression on both sides"
  | .danglingModifier modifier =>
    "'" ++ modifier ++ "' must be followed by a term, phrase, or group"
  | .stackedModifier modifier => "'" ++ modifier ++ "' cannot follow another modifier"
  | .emptyQuery => "query contains nothing to search for"
  | .tooLong length limit =>
    "query is " ++ toString length ++ " bytes long, the limit is " ++ toString limit

/-- What to try instead, where there is a common remedy. -/
def suggestion : Problem → Option String
  | .unclosedQuote => some "Add a closing quote (\") to complete the phrase"
  | .emptyPhrase => some "Put at least one word between the quotes"
  | .unclosedParen => some "Add a closing parenthesis ) to match the opening one"
  | .unexpectedCloseParen => some "Remove the ) or add a matching ( before it"
  | .missingOperand operator =>
    if operator == "OR" || operator == "||" then
      some "OR requires expressions on both sides, e.g., 'rust OR golang'"
    else some "AND requires expressions on both sides, e.g., 'rust AND async'"
  | .danglingModifier _ =>
    some "Attach the modifier directly to a clause, e.g., '-deprecated' or '+\"exact phrase\"'"
  | .stackedModifier _ => some "Use a single +, - or NOT per clause"
  | .emptyGroup | .emptyQuery | .tooLong .. => none

end Problem

/-- A problem with the byte offset where it was noticed, if it has one. -/
structure Fault where
  problem : Problem
  position : Option Nat
  deriving DecidableEq, Repr

/-- A fault together with the query it was found in. -/
structure Error extends Fault where
  query : String
  deriving DecidableEq, Repr

namespace Error

/-- The number of leading characters that start before byte `position`, when the first one starts
at `offset`. -/
def columnFrom (position : Nat) (offset : Nat) : List Char → Nat
  | [] => 0
  | c :: cs =>
    if offset < position then columnFrom position (offset + c.utf8Size) cs + 1 else 0

/-- The line with the caret under the offending place. -/
def caretLine (e : Error) (position : Nat) : String :=
  "\n  " ++ "".pushn ' ' (columnFrom position 0 e.query.toList) ++ "^"

/-- The message, the query, and a caret under the place if there is one. -/
def context (e : Error) : String :=
  "query syntax error: " ++ e.problem.message ++ "\n  " ++ e.query ++
    match e.position with
    | some position => e.caretLine position
    | none => ""

/-- The whole report: the context, then the hint if there is one. -/
def report (e : Error) : String :=
  e.context ++
    match e.problem.suggestion with
    | some hint => "\nhint: " ++ hint
    | none => ""

end Error

end TextQuery.Query
