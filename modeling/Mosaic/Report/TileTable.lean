import Mosaic.Text.Decimal
import Mosaic.Tile

/-! The tiles of a job as a table with rounded borders. -/
namespace Mosaic.Report

/-- The cells of a tile: index, first and last column, number of columns, rows. -/
def tileCells (tile : Tile) : List String :=
  [Text.decimal tile.index, Text.decimal tile.startColumn, Text.decimal tile.endColumn,
    Text.decimal tile.columns, Text.decimal tile.startRow ++ "-" ++ Text.decimal tile.endRow]

/-- The headings of the columns. -/
def headings : List String := ["tile", "start", "end", "columns", "rows"]

/-- The widest cell of each column. -/
def cellWidths (rows : List (List String)) : List Nat :=
  rows.foldl (fun widths row => List.zipWith (fun width cell => max width cell.length) widths row)
    (headings.map String.length)

/-- A horizontal rule between a left and a right end. -/
def rule (left middle right : String) (widths : List Nat) : String :=
  left ++ middle.intercalate (widths.map fun width => "".pushn '─' (width + 2)) ++ right

/-- A row of cells, each with a blank on both sides. -/
def tableRow (widths : List Nat) (cells : List String) : String :=
  "│" ++ "│".intercalate
    (List.zipWith (fun width cell => " " ++ Text.alignLeft width cell ++ " ") widths cells) ++ "│"

/-- The lines of the table. -/
def tileTable (tiles : List Tile) : List String :=
  let rows := tiles.map tileCells
  let widths := cellWidths rows
  [rule "╭" "┬" "╮" widths, tableRow widths headings, rule "├" "┼" "┤" widths] ++
    rows.map (tableRow widths) ++ [rule "╰" "┴" "╯" widths]

end Mosaic.Report
