/-
Charts on the screen of a terminal.

The screen is shared between a box with the bars and a legend of up to three rows under it. Bars are three columns wide
and stand without gaps in groups, one group for each name, two columns apart; they are drawn in eighths of a row. Bars
that find no room are left out. The names stand under their groups and may run over what is right of them.
-/
import Benchwork.Chart.Model
import Benchwork.Number.Binary
import Benchwork.Terminal.Screen
import Benchwork.Terminal.Wrap
import Benchwork.Text.Blank

namespace Benchwork.Terminal

open Benchwork.Chart Benchwork.Number

/-! ## Bars -/

/-- a height in thousandths, as a whole number that fits 64 bits -/
def scaled (v : Float) : Nat := toNatWithin (twoTo 64 - 1) (atLeast 0.0 v * 1000.0)

/-- a bar to be drawn -/
structure Column where
  value : Nat
  ink : Ink
  deriving DecidableEq, Repr

/-- the bars of one name and the name -/
structure Cluster where
  label : String
  columns : List Column
  deriving DecidableEq, Repr

def barWidth : Nat := 3

def clusterGap : Nat := 2

/-- the bar of a series for name number `j` -/
def column (s : Series) (j : Nat) : Column :=
  match s.bars[j]? with
  | some b => ⟨scaled b.height, (if b.missing then missingColor else s.color).ink⟩
  | none => ⟨0, s.color.ink⟩

def clusters (c : Chart) : List Cluster :=
  c.names.zipIdx.map fun (name, j) => ⟨name, c.series.map (column · j)⟩

/-- the value of a full bar: the limit or the greatest value, but not zero -/
def fullValue (c : Chart) : Nat :=
  match c.limit with
  | some limit => max (scaled limit) 1
  | none => ((clusters c).flatMap fun k => k.columns.map (·.value)).foldl max 1

/-- the clusters that find room in `space` columns, the last one perhaps without its last bars -/
def fitting : Nat → List Cluster → List Cluster
  | _, [] => []
  | space, k :: rest =>
    let width := k.columns.length * barWidth
    if space = 0 then []
    else if space > width then k :: fitting (space - (width + clusterGap)) rest
    else if space / barWidth = 0 then []
    else [{ k with columns := k.columns.take (space / barWidth) }]

/-- the symbol of a cell with this many eighths in it -/
def block (eighths : Nat) : String :=
  match eighths with
  | 0 => " "
  | 1 => "▁"
  | 2 => "▂"
  | 3 => "▃"
  | 4 => "▄"
  | 5 => "▅"
  | 6 => "▆"
  | 7 => "▇"
  | _ => "█"

/-- draws a bar in the columns from `x` on, up from the bottom of `rows` rows -/
def drawColumn (s : Screen) (x y rows full : Nat) (k : Column) : Screen :=
  let eighths := k.value * rows * 8 / full
  (List.range rows).foldl (fun s up => (List.range barWidth).foldl (fun s dx =>
    s.putInk (x + dx) (y + rows - 1 - up) (block (eighths - 8 * up)) k.ink) s) s

/-- the left edges of clusters that stand side by side from `x` on -/
def edges (x : Nat) : List Cluster → List (Nat × Cluster)
  | [] => []
  | k :: rest => (x, k) :: edges (x + k.columns.length * barWidth + clusterGap) rest

/-- draws the bars and their names inside an area -/
def drawBars (s : Screen) (a : Area) (c : Chart) : Screen :=
  if a.isEmpty then s
  else
    let rows := if a.height = 1 then 1 else a.height - 1
    let shown := edges a.x (fitting a.width (clusters c))
    let s := shown.foldl (fun s (x, k) => k.columns.zipIdx.foldl (fun s (col, i) =>
      drawColumn s (x + i * barWidth) a.y rows (fullValue c) col) s) s
    if a.height = 1 then s
    else shown.foldl (fun s (x, k) => s.write x (a.y + a.height - 1) (lineSymbols k.label)) s

/-! ## Legend -/

/-- symbols of one style -/
def styled (text : String) (style : Style) : List Cell := (symbolsOf text.toList).map fun c => ⟨c, style⟩

/-- the line with a key for every series -/
def keyLine (c : Chart) (theme : Theme) : List Cell :=
  let normal : Style := { ink := theme.foreground }
  (c.series.flatMap fun s =>
    styled (if s.hatched then "▒▒ " else "██ ") { ink := s.color.ink } ++ styled (s.label ++ "   ") normal) ++
  (if c.anyMissing then styled "▒▒ " { ink := missingColor.ink } ++ styled "Missing optimization" normal else [])

/-- the text for one bar that is cut off -/
def cutText (c : Chart) (l : OverflowLabel) : String :=
  ((c.series[l.series]?).map (·.label)).getD "" ++ "/" ++ (c.names[l.bar]?).getD "" ++ " " ++ l.text

/-- the lines of the legend before they are wrapped -/
def legendLines (c : Chart) (theme : Theme) : List (List Cell) :=
  let cut :=
    if c.overflow.isEmpty then []
    else [styled ("Cut off: " ++ ", ".intercalate (c.overflow.map (cutText c))) { ink := theme.warning }]
  [keyLine c theme] ++ cut ++ [styled "q: quit" { dim := true }]

/-- draws the legend; rows that find no room are left out -/
def drawLegend (s : Screen) (a : Area) (c : Chart) (theme : Theme) : Screen :=
  if a.isEmpty then s
  else
    let lines := (legendLines c theme).flatMap (wrap (fun cell => cell.symbol.toList.all Text.isBlank) a.width)
    (lines.take a.height).zipIdx.foldl (fun s (line, dy) => line.zipIdx.foldl (fun s (cell, dx) =>
      s.change (a.x + dx) (a.y + dy) fun _ => cell) s) s

/-! ## The view -/

/-- the box with the news that there is nothing to show -/
def drawEmpty (s : Screen) (theme : Theme) (title : String) : Screen :=
  let s := drawBox s s.area theme.border theme.title title
  let a := s.area.inner
  if a.isEmpty then s
  else
    let s := s.restyle a fun st => { st with dim := true }
    let text := (symbolsOf "No data available".toList).take a.width
    s.write (a.x + (a.width / 2 - text.length / 2)) a.y text

/-- the chart on a screen of the given size -/
def view (c : Chart) (theme : Theme) (title : String) (width height : Nat) : Screen :=
  let s := Screen.blank width height
  let text := " " ++ title ++ " "
  if c.names.isEmpty || c.series.isEmpty then drawEmpty s theme text
  else
    let barRows := max (min height 5) (height - 3)
    let box : Area := ⟨0, 0, width, barRows⟩
    let s := drawBox s box theme.border theme.title text
    let s := drawBars s box.inner c
    drawLegend s ⟨0, barRows, width, height - barRows⟩ c theme

end Benchwork.Terminal
