/-
The frame of a page: where values and bars come to stand.

A figure is measured in units of a hundred points and leaves margins around the frame. Inside it the names stand one unit
apart, the bars of a name share four fifths of a unit, and the value axis runs from zero at the bottom to the top of the
chart. Ticks on that axis are one, two, five or ten times a power of ten apart.
-/
import Benchwork.Chart.Model
import Benchwork.Number.Fixed

namespace Benchwork.Page

open Benchwork.Chart Benchwork.Number

/-- width and height of a figure in units -/
structure FigureSize where
  width : Nat
  height : Nat
  deriving DecidableEq, Repr

/-- the edges of the frame on the page, and the values at them -/
@[ext]
structure Frame where
  left : Float
  right : Float
  upper : Float
  lower : Float
  first : Float
  last : Float
  top : Float
  top_nonneg : 0.0 ≤ top

/-- the part of a unit that the bars of a name take -/
def groupWidth : Float := 0.8

/-- the width of a bar -/
def barWidth (c : Chart) : Float := groupWidth / Float.ofNat (max c.series.length 1)

/-- the width of the page -/
def FigureSize.pageWidth (size : FigureSize) : Float := Float.ofNat size.width * 100.0

/-- the height of the page -/
def FigureSize.pageHeight (size : FigureSize) : Float := Float.ofNat size.height * 100.0

namespace Frame

/-- the frame for a chart on a page of this size -/
def ofChart (c : Chart) (size : FigureSize) : Frame where
  left := 80.0
  right := size.pageWidth - 20.0
  upper := 50.0
  lower := size.pageHeight - 120.0
  first := -barWidth c / 2.0 - 0.1
  last := Float.ofNat (max c.names.length 1 - 1) + groupWidth - barWidth c / 2.0 + 0.1
  top := c.top
  top_nonneg := c.top_nonneg

/-- where a place between the names comes to stand -/
def x (f : Frame) (v : Float) : Float := f.left + (v - f.first) / (f.last - f.first) * (f.right - f.left)

/-- where a value comes to stand, if it is within the axis, and otherwise the nearer end of it -/
def y (f : Frame) (v : Float) : Float :=
  if f.top <= 0.0 then f.lower else f.lower - clamp 0.0 f.top f.top_nonneg v / f.top * (f.lower - f.upper)

end Frame

/-! ## Ticks -/

/-- a distance of at least `raw` that is one, two, five or ten times a power of ten -/
def niceStep (raw : Float) : Float :=
  if raw <= 0.0 || !isFinite raw then 1.0
  else
    let magnitude := Float.pow 10.0 raw.log10.floor
    let normalized := raw / magnitude
    let nice := if normalized <= 1.0 then 1.0 else if normalized <= 2.0 then 2.0 else if normalized <= 5.0 then 5.0 else 10.0
    nice * magnitude

/-- the ticks from `tick` on, up to the top of the axis; none if there are `bound` of them or more -/
def ticksFrom (step top : Float) : (bound : Nat) → (tick : Float) → Option (List Float)
  | 0, _ => none
  | bound + 1, tick =>
    if tick <= top + step * 1e-9 then (ticksFrom step top bound (tick + step)).map (tick :: ·) else some []

/-- the ticks of the value axis, fewer than `bound` of them -/
def Frame.ticksWithin (f : Frame) (bound : Nat) : Option (List Float) :=
  let step := niceStep (f.top / 5.0)
  ticksFrom step f.top bound 0.0

/-- the text at a tick: whole numbers without a fraction, others with up to three decimals -/
def tickLabel (v : Float) : String :=
  if (v - truncate v).abs < 1e-9 then fixed 0 v
  else String.ofList (Text.dropEndWhile (· = '0') (fixed 3 v).toList)

end Benchwork.Page
