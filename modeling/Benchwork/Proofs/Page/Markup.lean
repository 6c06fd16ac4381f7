/-
Texts and markup of a page.

The delimiters of a page are the characters that its tags and attributes start and end with. Texts enter a page as
character data only, and that is escaped: an element has the same delimiters whatever its character data is
(`delimiters_render`). What else is drawn does not depend on texts, so the elements of a chart and of the chart without
its texts are the same up to their character data (`bare_marks`).

From this follows that texts cannot inject markup: the pages of two charts that differ in their texts only have the same
delimiters in the same order, whatever their titles are (`texts_inject_no_markup`).
-/
import Benchwork.Page.Drawing
import Benchwork.Proofs.Page.Escape

namespace Benchwork

/-! ## Charts without their texts -/

namespace Chart

/-- the bars differ in their names at most -/
structure Bar.Alike (b b' : Bar) : Prop where
  height : b.height = b'.height
  missing : b.missing = b'.missing

/-- the series differ in their texts at most -/
structure Series.Alike (s s' : Series) : Prop where
  color : s.color = s'.color
  hatched : s.hatched = s'.hatched
  bars : List.Forall₂ Bar.Alike s.bars s'.bars

/-- the charts differ in their texts at most -/
structure Alike (c c' : Chart) : Prop where
  names : c.names.length = c'.names.length
  limit : c.limit = c'.limit
  series : List.Forall₂ Series.Alike c.series c'.series

def Bar.bare (b : Bar) : Bar := { b with name := "" }

def Series.bare (s : Series) : Series := { s with group := "", label := "", bars := s.bars.map Bar.bare }

def bare (c : Chart) : Chart :=
  { c with names := c.names.map fun _ => "", series := c.series.map Series.bare }

theorem Bar.Alike.bare_eq {b b' : Bar} (h : b.Alike b') : b.bare = b'.bare := by
  rw [Bar.bare, Bar.bare, h.height, h.missing]

theorem Series.Alike.bare_eq {s s' : Series} (h : s.Alike s') : s.bare = s'.bare := by
  have hbars : s.bars.map Bar.bare = s'.bars.map Bar.bare := by
    rw [← List.forall₂_eq_eq_eq, List.forall₂_map_left_iff, List.forall₂_map_right_iff]
    exact h.bars.imp fun _ _ hb => hb.bare_eq
  rw [Series.bare, Series.bare, h.color, h.hatched, hbars]

theorem Alike.bare_eq {c c' : Chart} (h : c.Alike c') : c.bare = c'.bare := by
  have hnames : (c.names.map fun _ => "") = c'.names.map fun _ => "" := by
    rw [List.map_const', List.map_const', h.names]
  have hseries : c.series.map Series.bare = c'.series.map Series.bare := by
    rw [← List.forall₂_eq_eq_eq, List.forall₂_map_left_iff, List.forall₂_map_right_iff]
    exact h.series.imp fun _ _ hs => hs.bare_eq
  exact Chart.ext hnames hseries h.limit

theorem heights_bare (c : Chart) : c.bare.heights = c.heights := by
  rw [heights, bare, List.flatMap_map]
  simp only [Series.bare, List.map_map]
  rfl

theorem top_bare (c : Chart) : c.bare.top = c.top := by
  rw [top, top, heights_bare]
  rfl

theorem anyMissing_bare (c : Chart) : c.bare.anyMissing = c.anyMissing := by
  simp only [anyMissing, bare, Series.bare, List.any_map, Function.comp_def]
  rfl

theorem seriesOverflow_bare (limit : Float) (i : Nat) (s : Series) :
    seriesOverflow limit i s.bare = seriesOverflow limit i s := by
  have hbars : s.bare.bars.zipIdx = s.bars.zipIdx.map (Prod.map Bar.bare id) := List.zipIdx_map
  rw [seriesOverflow, hbars, List.filter_map, List.map_map]
  rfl

theorem overflow_bare (c : Chart) : c.bare.overflow = c.overflow := by
  have hseries : c.bare.series.zipIdx = c.series.zipIdx.map (Prod.map Series.bare id) := List.zipIdx_map
  rw [overflow, hseries]
  simp only [List.flatMap_map, Prod.map, seriesOverflow_bare]
  rfl

end Chart

namespace Page

open Benchwork.Chart

/-! ## Delimiters of elements -/

def delimiters (s : String) : List Char := s.toList.filter isDelimiter

@[simp]
theorem delimiters_append (s t : String) : delimiters (s ++ t) = delimiters s ++ delimiters t := by
  rw [delimiters, String.toList_append, List.filter_append]
  rfl

theorem delimiters_join (ss : List String) : delimiters (String.join ss) = ss.flatMap delimiters := by
  rw [delimiters, String.toList_join, List.filter_flatMap]
  rfl

@[simp]
theorem delimiters_escape (s : String) : delimiters (escape s) = [] :=
  List.filter_eq_nil_iff.2 fun _ hx => Bool.eq_false_iff.1 (isDelimiter_of_mem_escape hx)

def Element.bare (e : Element) : Element := { e with content := e.content.map fun _ => "" }

/-- character data has no delimiters -/
theorem delimiters_render (e : Element) : delimiters e.render = delimiters e.bare.render := by
  unfold Element.render Element.bare
  cases e.content with
  | none => rfl
  | some s => simp

/-! ## Elements of a chart -/

theorem barWidth_bare (c : Chart) : barWidth c.bare = barWidth c := by
  rw [barWidth, Chart.bare, List.length_map]
  rfl

theorem ofChart_bare (c : Chart) (size : FigureSize) : Frame.ofChart c.bare size = Frame.ofChart c size := by
  have hnames : c.bare.names.length = c.names.length := List.length_map _
  refine Frame.ext rfl rfl rfl rfl ?_ ?_ (top_bare c)
  · rw [Frame.ofChart, Frame.ofChart, barWidth_bare]
  · rw [Frame.ofChart, Frame.ofChart, barWidth_bare, hnames]

/-- the marks of a bar are told by its height and by the color of its series -/
theorem bars_bare (f : Frame) (c : Chart) : bars f c.bare = bars f c := by
  have hseries : c.bare.series.zipIdx = c.series.zipIdx.map (Prod.map Series.bare id) := List.zipIdx_map
  rw [bars, hseries, List.flatMap_map, barWidth_bare]
  simp only [Series.bare, Prod.map, List.zipIdx_map, List.flatMap_map]
  rfl

theorem names_bare (f : Frame) (c : Chart) : (names f c.bare).map Element.bare = (names f c).map Element.bare := by
  have hnames : c.bare.names.zipIdx = c.names.zipIdx.map (Prod.map (fun _ => "") id) := List.zipIdx_map
  have hlength : c.bare.series.length = c.series.length := List.length_map _
  rw [names, names, hnames, hlength, barWidth_bare, List.map_map, List.map_map, List.map_map]
  rfl

def LegendRow.bare (row : LegendRow) : LegendRow := { row with label := "" }

theorem legendRows_bare (c : Chart) :
    (legendRows c.bare).map LegendRow.bare = (legendRows c).map LegendRow.bare := by
  have hseries : c.bare.series = c.series.map Series.bare := rfl
  rw [legendRows, legendRows, hseries, anyMissing_bare, List.map_append, List.map_append, List.map_map, List.map_map,
    List.map_map]
  rfl

theorem legendMarks_bare (left top : Float) (row : LegendRow) (k : Nat) :
    (legendMarks left top row.bare k).map Element.bare = (legendMarks left top row k).map Element.bare := by
  obtain ⟨label, color, hatched⟩ := row
  cases hatched with
  | false => rfl
  | true => rfl

/-- rows with the same colors and hatching have the same marks, up to their labels -/
theorem flatMap_legendMarks_bare (left top : Float) (rows : List LegendRow) :
    (rows.zipIdx.flatMap fun (row, k) => legendMarks left top row k).map Element.bare =
      (rows.map LegendRow.bare).zipIdx.flatMap fun (row, k) => (legendMarks left top row k).map Element.bare := by
  rw [List.map_flatMap, List.zipIdx_map, List.flatMap_map]
  simp only [Prod.map, legendMarks_bare]
  rfl

theorem legend_bare (f : Frame) (c : Chart) : (legend f c.bare).map Element.bare = (legend f c).map Element.bare := by
  have hlength : (legendRows c.bare).length = (legendRows c).length := by
    rw [← List.length_map LegendRow.bare, legendRows_bare, List.length_map]
  rw [legend, legend, List.map_cons, List.map_cons, flatMap_legendMarks_bare, flatMap_legendMarks_bare,
    legendRows_bare, hlength]

theorem bare_marks (c : Chart) (size : FigureSize) (ticks : List Float) :
    (marks c.bare size ticks).map Element.bare = (marks c size ticks).map Element.bare := by
  have hlabels : overflowLabels (Frame.ofChart c size) c.bare = overflowLabels (Frame.ofChart c size) c := by
    rw [overflowLabels, overflow_bare, barWidth_bare]
    rfl
  rw [marks, marks, ofChart_bare, bars_bare, hlabels]
  simp only [List.map_cons, List.map_append, names_bare, legend_bare]

/-! ## Pages -/

/-- the delimiters of a page, from its elements without their character data -/
theorem delimiters_page (c : Chart) (size : FigureSize) (title : String) (ticks : List Float) :
    delimiters (String.join ((pageLines c size title ticks).map (· ++ "\n"))) =
      delimiters (opening size) ++ delimiters (Element.render ⟨"title", [], some ""⟩) ++ delimiters hatchPattern ++
        ((marks c size ticks).map Element.bare).flatMap (fun e => delimiters e.render) ++ delimiters "</svg>" := by
  have hbreak : delimiters "\n" = [] := by decide
  have htitle : delimiters (Element.render ⟨"title", [], some title⟩) = delimiters (Element.render ⟨"title", [], some ""⟩) :=
    delimiters_render _
  rw [delimiters_join, List.flatMap_map, pageLines]
  simp only [delimiters_append, hbreak, List.append_nil, List.flatMap_append, List.flatMap_cons, List.flatMap_nil,
    List.flatMap_map, ← delimiters_render, htitle, List.append_assoc]

/-- **Texts cannot inject markup.** Where the ticks of the value axis end, two charts that differ in their texts only
have pages with the same delimiters, whatever the titles are. -/
theorem texts_inject_no_markup {c c' : Chart} (h : c.Alike c') (size : FigureSize) (title title' : String) {bound : Nat}
    (hticks : (Frame.ofChart c size).ticksWithin bound ≠ none) :
    ∃ page page', renderWithin bound c size title = some page ∧ renderWithin bound c' size title' = some page' ∧
      delimiters page = delimiters page' := by
  obtain ⟨ticks, hsome⟩ := Option.ne_none_iff_exists'.1 hticks
  have hframe : Frame.ofChart c size = Frame.ofChart c' size := by rw [← ofChart_bare, h.bare_eq, ofChart_bare]
  have hmarks : (marks c size ticks).map Element.bare = (marks c' size ticks).map Element.bare := by
    rw [← bare_marks, h.bare_eq, bare_marks]
  refine ⟨String.join ((pageLines c size title ticks).map (· ++ "\n")),
    String.join ((pageLines c' size title' ticks).map (· ++ "\n")), ?_, ?_, ?_⟩
  · rw [renderWithin, hsome]
    rfl
  · rw [renderWithin, ← hframe, hsome]
    rfl
  · rw [delimiters_page, delimiters_page, hmarks]

/-- a chart with an ordinary and a hatched series under the least limit above zero; the three texts are the name and the
labels -/
def chartOf (name label label' : String) : Chart where
  names := [name]
  series := [⟨"TestStream", label, ⟨0.5, 0.25, 0.75⟩, false, [⟨name, 3.0, false⟩]⟩,
    ⟨"TestStreamOpt", label', ⟨0.5, 0.25, 0.75⟩, true, [⟨name, 3.0, true⟩]⟩]
  limit := some 5e-324
  limit_pos := by decide +kernel

/-- texts that look like markup, and one that looks like an entity -/
theorem markup_in_texts_is_inert :
    (chartOf "sum" "Stream" "Stream optimized").Alike (chartOf "\"/><script>" "</text><rect " "&lt;a&quot;") ∧
      ∃ page page', render (chartOf "sum" "Stream" "Stream optimized") ⟨8, 5⟩ "out.json" = some page ∧
        render (chartOf "\"/><script>" "</text><rect " "&lt;a&quot;") ⟨8, 5⟩ "</title></svg>" = some page' ∧
        delimiters page = delimiters page' := by
  have halike : (chartOf "sum" "Stream" "Stream optimized").Alike
      (chartOf "\"/><script>" "</text><rect " "&lt;a&quot;") :=
    ⟨rfl, rfl, .cons ⟨rfl, rfl, .cons ⟨rfl, rfl⟩ .nil⟩ (.cons ⟨rfl, rfl, .cons ⟨rfl, rfl⟩ .nil⟩ .nil)⟩
  -- a fifth of the limit is zero, so the ticks are one apart and no logarithm is asked for
  have hticks : (Frame.ofChart (chartOf "sum" "Stream" "Stream optimized") ⟨8, 5⟩).ticksWithin tickBound ≠ none := by
    decide +kernel
  exact ⟨halike, texts_inject_no_markup halike ⟨8, 5⟩ "out.json" "</title></svg>" hticks⟩

end Page

end Benchwork
