import PolicyTree.Text.Fields
import PolicyTree.Text.Width
/-
  Tables for a terminal: rounded borders, one space on both sides of a cell, columns as wide
  as their widest cell, and a rule below the header only. A cell may have several lines.
  Without rows the rule below the header ends the table.
-/
namespace PolicyTree.CommandLine.Table

/-- The lines of a cell. -/
def cellLines (cell : String) : List String := Text.split '\n' cell

/-- The columns that a cell takes. -/
def cellWidth (cell : String) : Nat := ((cellLines cell).map Text.displayWidth).foldl max 0

/-- The width of every column. -/
def columnWidths (header : List String) (rows : List (List String)) : List Nat :=
  rows.foldl (fun widths row => List.zipWith max widths (row.map cellWidth)) (header.map cellWidth)

/-- The same character a number of times. -/
def repeated (n : Nat) (c : Char) : String := String.ofList (List.replicate n c)

/-- A line of a cell with spaces up to its width. -/
def padded (width : Nat) (line : String) : String :=
  line ++ repeated (width - Text.displayWidth line) ' '

/-- A rule across the table. -/
def rule (left cross right : String) (widths : List Nat) : String :=
  left ++ cross.intercalate (widths.map fun width => repeated (width + 2) '─') ++ right

/-- The `i`-th line of a row. -/
def rowLine (widths : List Nat) (row : List String) (i : Nat) : String :=
  "│" ++ String.join (List.zipWith
    (fun width cell => " " ++ padded width ((cellLines cell)[i]?.getD "") ++ " │") widths row)

/-- The lines of a row, as many as its tallest cell has. -/
def rowLines (widths : List Nat) (row : List String) : List String :=
  let height := (row.map fun cell => (cellLines cell).length).foldl max 0
  (List.range height).map (rowLine widths row)

/-- The lines of a table. -/
def lines (header : List String) (rows : List (List String)) : List String :=
  let widths := columnWidths header rows
  [rule "╭" "┬" "╮" widths] ++ rowLines widths header ++ [rule "├" "┼" "┤" widths] ++
    rows.flatMap (rowLines widths) ++
    if rows.isEmpty then [] else [rule "╰" "┴" "╯" widths]

/-- The text of a table, every line ended. -/
def text (header : List String) (rows : List (List String)) : String :=
  String.join ((lines header rows).map (· ++ "\n"))

end PolicyTree.CommandLine.Table
