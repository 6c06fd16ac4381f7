/-
Bar charts of results.

A chart has one series for each group, in display order, and in each series one bar for each name. A bar without a
measurement stands in for it with the height of the group before, the last group coming before the first, and is marked
as missing. An optimized series is hatched; it has the darkened color of its base if that is in the chart, and otherwise,
like every other series, the next color of the palette, darkened too.

A limit on the value axis has to be positive. Bars that reach it are cut off, and those of series that are not hatched
get a label with their height.
-/
import Benchwork.Benchmark.Results
import Benchwork.Chart.Theme
import Benchwork.Number.Sign

namespace Benchwork.Chart

open Benchwork.Benchmark Benchwork.Number

structure Bar where
  name : String
  height : Float
  missing : Bool

structure Series where
  group : String
  label : String
  color : Color
  hatched : Bool
  bars : List Bar

/-- the height of a bar that is cut off: series, bar and text -/
structure OverflowLabel where
  series : Nat
  bar : Nat
  text : String
  deriving DecidableEq, Repr

end Benchwork.Chart

/-- one series for each group and in each series one bar for each name, below a limit if there is one -/
@[ext]
structure Benchwork.Chart where
  names : List String
  series : List Benchwork.Chart.Series
  limit : Option Float
  limit_pos : ∀ y, limit = some y → y > 0.0

namespace Benchwork.Chart

open Benchwork.Benchmark Benchwork.Number

/-! ## Building -/

/-- the bar for a name: its own score, or the height of the group before -/
def bar (scores previous : Scores) (name : String) : Bar :=
  match scores.score? name with
  | some height => ⟨name, height, false⟩
  | none => ⟨name, (previous.score? name).getD 0.0, true⟩

/-- the color of the next series and how many colors of the palette are used up then -/
def nextColor (theme : Theme) (done : List Series) (used : Nat) (group : String) : Color × Nat :=
  let hatched := Group.isOptimized group
  match done.find? fun s => hatched && s.group = Group.base group with
  | some s => (s.color.darken optimizedShade, used)
  | none =>
    let c := theme.barColor used
    (if hatched then c.darken optimizedShade else c, used + 1)

/-- the series for the groups that are left, after those that are done; `previous` are the scores of the group before -/
def seriesFrom (theme : Theme) (names : List String) (done : List Series) (used : Nat) (previous : Scores) :
    List (String × Scores) → List Series
  | [] => done
  | (group, scores) :: rest =>
    let (color, used) := nextColor theme done used group
    let s : Series := ⟨group, Group.label group, color, Group.isOptimized group, names.map (bar scores previous)⟩
    seriesFrom theme names (done ++ [s]) used scores rest

/-- the chart of a result set -/
def build (results : Results) (theme : Theme) (limit : Option Float) : Except PlotError Chart :=
  results.ordered.map fun groups =>
    let previous := (groups.getLast?.map (·.2)).getD []
    { names := results.names
      series := seriesFrom theme results.names [] 0 previous groups
      limit := limit.filter (· > 0.0)
      limit_pos := fun _ h => of_decide_eq_true (Option.filter_eq_some_iff.1 h).2 }

/-! ## Reading -/

/-- some bar is missing -/
def anyMissing (c : Chart) : Bool := c.series.any fun s => s.bars.any (·.missing)

/-- every height in the chart -/
def heights (c : Chart) : List Float := c.series.flatMap fun s => s.bars.map (·.height)

/-- the top of the value axis: the limit, or a little above the tallest bar, or one if there is no bar above zero -/
def top (c : Chart) : Float :=
  match c.limit with
  | some limit => limit
  | none =>
    let tallest := c.heights.foldl (fun m h => if h > m then h else m) 0.0
    if tallest > 0.0 then tallest * 1.05 else 1.0

/-- the top is a number, and not below zero -/
theorem top_nonneg (c : Chart) : 0.0 ≤ c.top := by
  unfold top
  split
  · rename_i limit hlimit
    exact nonneg_of_pos (c.limit_pos limit hlimit)
  · dsimp only
    split
    · rename_i hpos
      exact mul_nonneg_of_pos hpos (by decide +kernel)
    · decide +kernel

/-- the labels of one series -/
def seriesOverflow (limit : Float) (i : Nat) (s : Series) : List OverflowLabel :=
  if s.hatched then []
  else (s.bars.zipIdx.filter fun (b, _) => b.height ≥ limit).map fun (b, j) =>
    ⟨i, j, toString (toIntWithin64 b.height)⟩

/-- the labels of the bars that are cut off -/
def overflow (c : Chart) : List OverflowLabel :=
  match c.limit with
  | none => []
  | some limit => c.series.zipIdx.flatMap fun (s, i) => seriesOverflow limit i s

end Benchwork.Chart
