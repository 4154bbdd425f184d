import PostingRules.Text.Split
import PostingRules.Text.Width

/-!
# Grids

A header and rows of cells, drawn with signs of ASCII. A cell takes as many lines as its text has.

* `Grid`: a header and rows;
* `cellLines`, `rowLines`: the lines of a cell and of a row;
* `Grid.widths`: the columns that every cell of a place is filled up to;
* **`Grid.text`**: the drawn grid.
-/

namespace PostingRules.Text

/-- A header and rows of cells. -/
structure Grid where
  header : List String
  rows : List (List String)
  deriving DecidableEq, Repr

/-! ## Lines -/

/-- The lines of a cell. -/
def cellLines (cell : String) : List String := (splitOn '\n' cell.toList).map String.ofList

/-- The columns of the widest line of a cell. -/
def cellWidth (cell : String) : Nat := ((cellLines cell).map width).foldl max 0

/-- A text of one sign. -/
def strokes (n : Nat) (c : Char) : String := String.ofList (List.replicate n c)

/-- A line of a cell, filled up with blanks and with one blank on each side. -/
def padded (w : Nat) (s : String) : String := " " ++ s ++ strokes (w - width s) ' ' ++ " "

/-- A line of every cell, with strokes around them. -/
def cellsLine (cells : List String) : String := "|" ++ separated "|" cells ++ "|"

/-- The lines of a row whose cells have these widths. -/
def rowLines (widths : List Nat) (row : List String) : List String :=
  let cells := row.map cellLines
  (List.range ((cells.map (·.length)).foldl max 0)).map fun i =>
    cellsLine ((widths.zip cells).map fun p => padded p.1 (p.2.getD i ""))

/-- A line between rows: an end, a stroke under every cell, a crossing between two, an end. -/
def ruleLine (stop : String) (crossing : String) (stroke : Char) (widths : List Nat) : String :=
  stop ++ separated crossing (widths.map fun w => strokes (w + 2) stroke) ++ stop

/-! ## Grids -/

/-- The columns of each place of a row: those of the widest cell there. -/
def Grid.widths (g : Grid) : List Nat :=
  g.rows.foldl (fun ws row => List.zipWith max ws (row.map cellWidth)) (g.header.map cellWidth)

/-- The lines of the rows, with a line between two of them. -/
def bodyLines (widths : List Nat) : List (List String) → List String
  | [] => []
  | [r] => rowLines widths r
  | r :: s :: rs => rowLines widths r ++ ruleLine "|" "+" '-' widths :: bodyLines widths (s :: rs)

/-- The lines of a drawn grid. -/
def Grid.lines (g : Grid) : List String :=
  let ws := g.widths
  [ruleLine "+" "+" '-' ws] ++ rowLines ws g.header ++ [ruleLine "+" "=" '=' ws] ++
    bodyLines ws g.rows ++ [ruleLine "+" "+" '-' ws]

/-- **The drawn grid.** -/
def Grid.text (g : Grid) : String := separated "\n" g.lines

end PostingRules.Text
