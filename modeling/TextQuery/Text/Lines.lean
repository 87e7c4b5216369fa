/-!
# Lines

Two ways to cut a text into lines. Splitting keeps every piece between newlines, the one after the
last newline included. The lines of a text are what a reader sees: a newline ends a line, alone or
with a carriage return before it, and nothing follows the last one.
-/

namespace TextQuery.Text

/-- The pieces between newlines. -/
def splitLines : List Char → List (List Char)
  | [] => [[]]
  | c :: cs =>
    if c == '\n' then [] :: splitLines cs
    else
      match splitLines cs with
      | piece :: pieces => (c :: piece) :: pieces
      | [] => [[c]]

/-- A line without the carriage return that ends it. -/
def dropReturn (line : List Char) : List Char :=
  if line.getLast? == some '\r' then line.dropLast else line

/-- The lines that pieces between newlines make up. -/
def linesOfPieces : List (List Char) → List (List Char)
  | [] => []
  | [last] => if last.isEmpty then [] else [last]
  | piece :: pieces => dropReturn piece :: linesOfPieces pieces

/-- The lines of a text. -/
def lines (text : String) : List String :=
  (linesOfPieces (splitLines text.toList)).map String.ofList

end TextQuery.Text
