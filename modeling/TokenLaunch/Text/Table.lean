/-
# Tables

A table is a row of headings above rows of cells.  It is drawn with rules between all rows, and
each column is as wide as its widest cell.  A cell may have several lines; its row is then as high
as the highest of its cells.
-/
import TokenLaunch.Text.Width

namespace TokenLaunch

/-- A table: its headings, and rows with one cell for each. -/
structure Table where
  headings : List String
  rows : List (List String)

namespace Table

/-- The lines of a cell. -/
def cellLines : List Char → List (List Char)
  | [] => [[]]
  | c :: rest =>
    if c == '\n' then [] :: cellLines rest
    else
      match cellLines rest with
      | line :: lines => (c :: line) :: lines
      | [] => [[c]]

/-- The columns that a cell needs. -/
def cellWidth (s : String) : Nat :=
  ((cellLines s.toList).map Text.width).max?.getD 0

/-- The width of each column, as its widest cell needs it. -/
def widths (t : Table) : List Nat :=
  t.rows.foldl (fun ws row => List.zipWith (fun w s => max w (cellWidth s)) ws row)
    (t.headings.map cellWidth)

/-- A rule between two rows. -/
def rule (ws : List Nat) : List Char :=
  '+' :: ws.flatMap fun w => List.replicate (w + 2) '-' ++ ['+']

/-- A line of a cell, filled up to the width of its column. -/
def filled (w : Nat) (line : List Char) : List Char :=
  ' ' :: line ++ List.replicate (w - Text.width line) ' ' ++ [' ', '|']

/-- The lines of a row. -/
def rowLines (ws : List Nat) (row : List String) : List (List Char) :=
  let cells := row.map fun s => cellLines s.toList
  let height := (cells.map List.length).max?.getD 0
  (List.range height).map fun i =>
    '|' :: (List.zipWith (fun w cell => filled w (cell[i]?.getD [])) ws cells).flatten

/-- The lines of a table. -/
def lines (t : Table) : List (List Char) :=
  let ws := t.widths
  rule ws :: (t.headings :: t.rows).flatMap fun row => rowLines ws row ++ [rule ws]

/-- A table as text, without a line break at its end. -/
def text (t : Table) : String :=
  String.ofList (List.intercalate ['\n'] t.lines)

end Table
end TokenLaunch
