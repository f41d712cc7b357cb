import ShellStyle.Layout.Panel
import ShellStyle.Library

/-!
# Tables

A table has a title, a row of headings and rows of cells. A column is as wide as its widest cell; if
the columns together are too wide for the terminal, the widest one gives way, and its cells are
broken between words or cut.
-/

namespace ShellStyle.Layout

open Text

/-- A line of a cell in a column of `columns` columns. -/
def Alignment.place (a : Alignment) (columns : Nat) (t : Text) : Text :=
  match a with
  | .left => padRight columns (crop .ellipsis columns t)
  | .right => padLeft columns (crop .ellipsis columns (trimRight t))
  | .center => padBoth columns (crop .ellipsis columns (trimRight t))

namespace Column

/-- The columns that the widest cell needs, at least one. -/
def needed (c : Column) : Nat :=
  max 1 (((c.heading :: c.cells).map widest).foldl max 0)

end Column

/-- The widths with `excess` columns taken from the widest one, the first of these. -/
def narrow (excess : Nat) (widths : List Nat) : List Nat :=
  let largest := widths.foldl max 0
  match widths.span (· ≠ largest) with
  | (before, w :: rest) => before ++ (w - excess) :: rest
  | (before, []) => before

/-- The columns that widths add up to. -/
def addUp (widths : List Nat) : Nat :=
  widths.foldr (· + ·) 0

/-- The widths that columns get: each has a space on either side and a line on its right, and there
is one more line on the left. -/
def columnWidths (columns : List Column) : List Nat :=
  let widths := columns.map Column.needed
  let frame := 3 * columns.length + 1
  let total := addUp widths + frame
  if total ≤ terminalWidth then widths else narrow (total - terminalWidth) widths

/-- A horizontal line of a table. -/
def gridRule (start stroke cross stop : Char) (widths : List Nat) : Text :=
  start :: joinWith [cross] (widths.map fun w => List.replicate (w + 2) stroke) ++ [stop]

/-- The line of a row that shows one line of each cell. -/
def gridLine (bar : Char) (parts : List Text) : Text :=
  bar :: parts.flatMap fun part => ' ' :: part ++ [' ', bar]

/-- The lines of a row: each cell is placed in its column, and short cells are filled up with blank
lines. -/
def gridRow (bar : Char) (widths : List Nat) (cells : List (Alignment × Text)) : List Text :=
  let placed := (widths.zip cells).map fun (w, a, cell) =>
    (w, (wrap .ellipsis w cell).map (a.place w))
  let height := (placed.map fun (_, lines) => lines.length).foldl max 0
  (List.range height).map fun i =>
    gridLine bar (placed.map fun (w, lines) => (lines[i]?).getD (List.replicate w ' '))

/-- A table. -/
def grid (title : Text) (columns : List Column) : List Text :=
  let widths := columnWidths columns
  let rows := (columns.map fun c => c.cells.length).foldl max 0
  let row := fun i => columns.map fun c => (c.alignment, (c.cells[i]?).getD [])
  padBoth (addUp widths + 3 * columns.length + 1) title ::
    gridRule '┏' '━' '┳' '┓' widths ::
    gridRow '┃' widths (columns.map fun c => (c.alignment, c.heading)) ++
    gridRule '┡' '━' '╇' '┩' widths ::
    (List.range rows).flatMap (fun i => gridRow '│' widths (row i)) ++
    [gridRule '└' '─' '┴' '┘' widths]

end ShellStyle.Layout
