/-
Results as a text table.

One row for each group, in display order, and one column for each name. Cells are padded to the widest line of their
column, the first column on the right and the others on the left; a row of dashes stands under the header. A cell with
line breaks takes several lines, and so does its row. A missing score is shown as infinite.
-/
import Benchwork.Benchmark.Results
import Benchwork.Number.Fixed
import Benchwork.Text.Width

namespace Benchwork.Table

open Benchwork.Benchmark Benchwork.Text

/-- the line about the virtual machine -/
def vmLine : Option Vm → String
  | some vm => s!"VM: {vm.name} {vm.version}"
  | none => "Unknown VM?"

/-- a cell: its lines -/
abbrev Cell := List String

def cellOf (s : String) : Cell := (s.toList.splitOn '\n').map String.ofList

/-- the text of a score -/
def scoreText (score : Option Float) : String := Number.fixed 3 (score.getD (1.0 / 0.0))

/-- the cells of a group: its name and its scores -/
def groupRow (names : List String) (g : String × Scores) : List String :=
  g.1 :: names.map fun n => scoreText (g.2.score? n)

/-- header and rows as texts -/
def rowTexts (results : Results) : Except PlotError (List (List String)) :=
  results.ordered.map fun groups => ("Group" :: results.names) :: groups.map (groupRow results.names)

/-- the widths of the columns: the widest line in each -/
def columnWidths (rows : List (List Cell)) (columns : Nat) : List Nat :=
  (List.range columns).map fun j =>
    (rows.flatMap fun row => (row[j]?.getD []).map width).foldl max 0

/-- a line of a cell, padded; the first column is aligned to the left -/
def pad (column columnWidth : Nat) (s : String) : String :=
  let blanks := String.ofList (List.replicate (columnWidth - width s) ' ')
  if column = 0 then s ++ blanks else blanks ++ s

/-- line `k` of a row -/
def rowLine (widths : List Nat) (row : List Cell) (k : Nat) : String :=
  let parts := (row.zip widths).zipIdx.map fun ((cell, w), j) => " " ++ pad j w (cell[k]?.getD "") ++ " "
  "|" ++ "|".intercalate parts ++ "|"

/-- the lines of a row: as many as its highest cell has -/
def rowLines (widths : List Nat) (row : List Cell) : List String :=
  (List.range ((row.map List.length).foldl max 0)).map (rowLine widths row)

/-- the line under the header -/
def ruler (widths : List Nat) : String :=
  "|" ++ "|".intercalate (widths.map fun w => String.ofList (List.replicate (w + 2) '-')) ++ "|"

/-- the lines of a table -/
def layout (texts : List (List String)) : List String :=
  let rows := texts.map fun row => row.map cellOf
  match rows with
  | [] => []
  | header :: body =>
    let widths := columnWidths rows header.length
    rowLines widths header ++ [ruler widths] ++ body.flatMap (rowLines widths)

/-- the table of a result set -/
def render (results : Results) : Except PlotError String :=
  (rowTexts results).map fun texts => "\n".intercalate (layout texts)

end Benchwork.Table
