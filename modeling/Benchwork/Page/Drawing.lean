/-
Charts as vector pages.

A page has a title, a hatch pattern, a white ground and then, in this order, the value axis with its frame, the bars, the
names under them, the labels of bars that are cut off, and a legend. Every mark is one element on a line of its own.

The value axis of a chart with an infinite or vanishing top has ticks without end; such a page is not drawn.
-/
import Benchwork.Page.Element
import Benchwork.Page.Frame
import Benchwork.Text.Blank

namespace Benchwork.Page

open Benchwork.Chart Benchwork.Number

def opacity : String := "0.8"

def rect (x y width height : String) (more : List (String × String)) : Element :=
  ⟨"rect", [("x", x), ("y", y), ("width", width), ("height", height)] ++ more, none⟩

/-- the fill of a hatched area -/
def hatching : List (String × String) := [("fill", "url(#hatch)")]

/-- a filled area with a black edge -/
def solid (fill : String) : List (String × String) := [("fill", fill), ("fill-opacity", opacity), ("stroke", "black")]

/-! ## Axis -/

def tickMarks (f : Frame) (tick : Float) : List Element :=
  let y := f.y tick
  [⟨"line", [("x1", plain f.left), ("y1", plain y), ("x2", plain f.right), ("y2", plain y), ("stroke", "#dddddd")], none⟩,
   ⟨"text", [("x", plain (f.left - 6.0)), ("y", plain (y + 4.0)), ("text-anchor", "end")], some (tickLabel tick)⟩]

def axis (f : Frame) (ticks : List Float) : List Element :=
  let mid := plain ((f.upper + f.lower) / 2.0)
  ticks.flatMap (tickMarks f) ++
    [rect (plain f.left) (plain f.upper) (plain (f.right - f.left)) (plain (f.lower - f.upper))
       [("fill", "none"), ("stroke", "black")],
     ⟨"text", [("x", "20"), ("y", mid), ("text-anchor", "middle"), ("transform", "rotate(-90 20 " ++ mid ++ ")")],
       some "Average time (ms)"⟩]

/-! ## Bars -/

/-- the marks of bar `j` of series `i` -/
def barMarks (f : Frame) (width : Float) (s : Series) (i : Nat) (b : Bar) (j : Nat) : List Element :=
  let center := Float.ofNat j + Float.ofNat i * width
  let left := f.x (center - width / 2.0)
  let right := f.x (center + width / 2.0)
  let top := f.y b.height
  let color := if b.missing then missingColor else s.color
  let area := rect (fixed 2 left) (fixed 2 top) (fixed 2 (right - left)) (fixed 2 (f.lower - top))
  area (solid color.hex) :: (if s.hatched then [area hatching] else [])

def bars (f : Frame) (c : Chart) : List Element :=
  c.series.zipIdx.flatMap fun (s, i) => s.bars.zipIdx.flatMap fun (b, j) => barMarks f (barWidth c) s i b j

/-! ## Names and labels -/

/-- a slanted text -/
def slanted (x : Float) (y anchor s : String) : Element :=
  ⟨"text", [("x", fixed 2 x), ("y", y), ("text-anchor", anchor),
    ("transform", "rotate(-30 " ++ fixed 2 x ++ " " ++ y ++ ")")], some s⟩

def names (f : Frame) (c : Chart) : List Element :=
  let offset := Float.ofNat (max c.series.length 1 - 1) / 2.0 * barWidth c
  c.names.zipIdx.map fun (name, j) => slanted (f.x (Float.ofNat j + offset)) (plain (f.lower + 14.0)) "end" name

def overflowLabels (f : Frame) (c : Chart) : List Element :=
  c.overflow.map fun l =>
    slanted (f.x (Float.ofNat l.bar + Float.ofNat l.series * barWidth c)) (plain (f.upper - 4.0)) "start" l.text

/-! ## Legend -/

/-- a row of the legend -/
structure LegendRow where
  label : String
  color : String
  hatched : Bool

def legendRows (c : Chart) : List LegendRow :=
  (c.series.map fun s => ⟨s.label, s.color.hex, s.hatched⟩) ++
    (if c.anyMissing then [⟨"Missing optimization", missingColor.hex, true⟩] else [])

def legendMarks (left top : Float) (row : LegendRow) (k : Nat) : List Element :=
  let y := top + 6.0 + Float.ofNat k * 18.0
  let swatch := rect (plain (left + 8.0)) (plain y) "24" "12"
  swatch (solid row.color) :: (if row.hatched then [swatch hatching] else []) ++
    [⟨"text", [("x", plain (left + 40.0)), ("y", plain (y + 10.0))], some row.label⟩]

def legend (f : Frame) (c : Chart) : List Element :=
  let rows := legendRows c
  let left := f.right - 190.0 - 10.0
  let top := f.upper + 10.0
  rect (plain left) (plain top) "190" (plain (Float.ofNat rows.length * 18.0 + 8.0))
      [("fill", "white"), ("fill-opacity", "0.8"), ("stroke", "#cccccc")] ::
    rows.zipIdx.flatMap fun (row, k) => legendMarks left top row k

/-! ## The page -/

/-- the marks of a chart whose axis has these ticks, in the order in which they are drawn -/
def marks (c : Chart) (size : FigureSize) (ticks : List Float) : List Element :=
  let f := Frame.ofChart c size
  ⟨"rect", [("width", "100%"), ("height", "100%"), ("fill", "white")], none⟩ ::
    (axis f ticks ++ bars f c ++ names f c ++ overflowLabels f c ++ legend f c)

def opening (size : FigureSize) : String :=
  let w := plain size.pageWidth
  let h := plain size.pageHeight
  "<svg xmlns=\"http://www.w3.org/2000/svg\" width=\"" ++ w ++ "\" height=\"" ++ h ++ "\" viewBox=\"0 0 " ++ w ++ " " ++ h ++
    "\" font-family=\"sans-serif\" font-size=\"12\">"

def hatchPattern : String :=
  "<defs><pattern id=\"hatch\" patternUnits=\"userSpaceOnUse\" width=\"8\" height=\"8\">" ++
    "<path d=\"M-2,2 l4,-4 M0,8 l8,-8 M6,10 l4,-4\" stroke=\"black\" stroke-width=\"1\"/></pattern></defs>"

/-- the lines of a page -/
def pageLines (c : Chart) (size : FigureSize) (title : String) (ticks : List Float) : List String :=
  [opening size, Element.render ⟨"title", [], some title⟩, hatchPattern] ++ (marks c size ticks).map Element.render ++
    ["</svg>"]

/-- the text of a page whose axis has fewer than `bound` ticks -/
def renderWithin (bound : Nat) (c : Chart) (size : FigureSize) (title : String) : Option String :=
  ((Frame.ofChart c size).ticksWithin bound).map fun ticks =>
    String.join ((pageLines c size title ticks).map (· ++ "\n"))

/-- more ticks than an axis that ends has -/
def tickBound : Nat := 1000

/-- the text of a page -/
def render (c : Chart) (size : FigureSize) (title : String) : Option String := renderWithin tickBound c size title

end Benchwork.Page
