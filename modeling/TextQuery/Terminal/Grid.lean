import TextQuery.Text.CellWidth

/-!
# Grids

A table with a heading, drawn with box characters. Each column is as wide as its widest cell, with a
blank on either side.
-/

namespace TextQuery.Terminal

/-- A table: a heading and rows with as many cells. -/
structure Grid where
  heading : List String
  rows : List (List String)
  deriving DecidableEq, Repr

namespace Grid

/-- How a horizontal line is drawn: its ends, the line itself and where columns meet. -/
structure Rule where
  left : Char
  line : Char
  cross : Char
  right : Char

/-- The line above the heading. -/
def top : Rule := ⟨'┌', '─', '┬', '┐'⟩

/-- The line below the heading. -/
def middle : Rule := ⟨'╞', '═', '╪', '╡'⟩

/-- The line below the rows. -/
def bottom : Rule := ⟨'└', '─', '┴', '┘'⟩

/-- The larger of two widths in each column. -/
def widen : List Nat → List String → List Nat
  | w :: ws, cell :: cells => max w (Text.cells cell) :: widen ws cells
  | ws, _ => ws

/-- The width of each column. -/
def widths (g : Grid) : List Nat :=
  g.rows.foldl widen (g.heading.map Text.cells)

/-- A horizontal line over columns of the given widths. -/
def drawRule (r : Rule) (widths : List Nat) : String :=
  let stretches := widths.map fun w => String.ofList (List.replicate (w + 2) r.line)
  String.singleton r.left ++ String.intercalate (String.singleton r.cross) stretches ++
    String.singleton r.right

/-- A cell filled up with blanks. -/
def fill (width : Nat) (cell : String) : String :=
  " " ++ cell ++ String.ofList (List.replicate (width - Text.cells cell) ' ') ++ " "

/-- A row of cells. -/
def drawRow (widths : List Nat) (cells : List String) : String :=
  "│" ++ String.intercalate "┆" (List.zipWith fill widths cells) ++ "│"

/-- The lines of the table. -/
def draw (g : Grid) : List String :=
  let ws := g.widths
  [drawRule top ws, drawRow ws g.heading, drawRule middle ws] ++ g.rows.map (drawRow ws) ++
    [drawRule bottom ws]

end Grid

end TextQuery.Terminal
