import BenchmarkOrchestration.Text.Affix
import BenchmarkOrchestration.Text.Width

namespace BenchmarkOrchestration.CommandLine

/-!
# Tables of text

A table is drawn with a rule before, between and after its rows.  A cell can have several lines;
its column is as wide as the widest line in it.
-/

namespace TextTable

/-- The lines of a cell. -/
def cellLines
    (cell : String) :
    List String :=
  splitText '\n' cell

/-- The number of columns that a cell takes. -/
def cellWidth
    (cell : String) :
    Nat :=
  ((cellLines cell).map Width.ofLine).foldl max 0

/-- The widths of all columns of some rows. -/
def columnWidths :
    List (List String) → List Nat
  | [] => []
  | [row] => row.map cellWidth
  | row :: rows => (row.map cellWidth).zipWith max (columnWidths rows)

/-- A rule of dashes with a cross where columns meet. -/
def rule
    (widths : List Nat) :
    String :=
  let dashes := widths.map fun width => String.ofList (List.replicate (width + 2) '-')
  "+" ++ "+".intercalate dashes ++ "+"

/-- A text brought to a width with blanks behind it. -/
def padded
    (width : Nat)
    (line : String) :
    String :=
  line ++ String.ofList (List.replicate (width - Width.ofLine line) ' ')

/-- The lines of a row; a cell with fewer lines than others ends in blank ones. -/
def rowLines
    (widths : List Nat)
    (row : List String) :
    List String :=
  let cells := row.map cellLines
  let height := (cells.map List.length).foldl max 0
  (List.range height).map fun place =>
    let parts := (widths.zip cells).map fun (width, lines) =>
      " " ++ padded width (lines.getD place "") ++ " "
    "|" ++ "|".intercalate parts ++ "|"

/-- The text of a table, without an end of its last line. -/
def render
    (header : List String)
    (rows : List (List String)) :
    String :=
  let all := header :: rows
  let widths := columnWidths all
  let rule := rule widths
  let body := all.flatMap fun row => rowLines widths row ++ [rule]
  "\n".intercalate (rule :: body)

end TextTable

end BenchmarkOrchestration.CommandLine
