import Fleet.Text.Split
import Fleet.Text.Width

/-!
# Tables

Columns as wide as their widest cell, with a blank on either side of a cell and one between columns.
A cell of several lines takes as many lines of its row.

Widths are counted in columns of a terminal, not in characters or bytes. Every cell is padded to the
width of its column, the last one too.
-/

namespace Fleet.Console.Table

/-- Lines of a cell. -/
def cellLines (cell : String) : List String := Text.split '\n' cell

/-- Columns that a cell takes. -/
def cellWidth (cell : String) : Nat := ((cellLines cell).map Text.width).foldl max 0

/-- Lines that a row takes. -/
def height (row : List String) : Nat := (row.map fun c => (cellLines c).length).foldl max 1

/-- Width of the column at an index. -/
def columnWidth (rows : List (List String)) (i : Nat) : Nat :=
  (rows.map fun r => cellWidth (r.getD i "")).foldl max 0

/-- A line of a cell in its column. -/
def pad (width : Nat) (line : String) : String :=
  " " ++ line ++ Text.repeated " " (width - Text.width line) ++ " "

/-- One line of a row. -/
def rowLine (widths : List Nat) (row : List String) (i : Nat) : String :=
  Text.join " " ((widths.zip row).map fun (w, c) => pad w ((cellLines c).getD i ""))

/-- Lines of a row. -/
def rowLines (widths : List Nat) (row : List String) : List String :=
  (List.range (height row)).map (rowLine widths row)

/-- A table under its header. -/
def text (header : List String) (rows : List (List String)) : String :=
  let all := header :: rows
  let widths := (List.range header.length).map (columnWidth all)
  Text.join "\n" (all.flatMap (rowLines widths))

end Fleet.Console.Table
