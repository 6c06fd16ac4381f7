/-
The items on a page.

`countP_marks` says how many marks of each tag a chart has: the parts of a page are gone through one by one, and a tag is
counted by `tally`. With the tags in the text of a page this gives the number of rectangles and of texts in it, from the
bars, names, overflow labels and rows of the legend (`page_draws_each_item_once`).
-/
import Benchwork.Proofs.Page.Tags

namespace Benchwork.Page

open Benchwork.Chart Benchwork.Text

/-! ## Marks with a tag -/

/-- one for the tag `t` and nothing for any other -/
def tally (t tag : String) : Nat := if tag = t then 1 else 0

/-- how often an area is drawn: a hatched one twice -/
def layers (hatched : Bool) : Nat := if hatched then 2 else 1

section Items

variable {t : String}

theorem countP_cons_mark {e : Element} (h : e.attributes ≠ []) (es : List Element) :
    (e :: es).countP (Element.Opens t) = tally t e.tag + es.countP (Element.Opens t) := by
  rw [List.countP_cons, Nat.add_comm]
  simp [Element.Opens, tally, h]

theorem countP_of_tag (tag : String) {es : List Element} (h : ∀ e ∈ es, e.tag = tag ∧ e.attributes ≠ []) :
    es.countP (Element.Opens t) = es.length * tally t tag := by
  induction es with
  | nil => simp
  | cons e es ih =>
    obtain ⟨⟨htag, hattributes⟩, hes⟩ := List.forall_mem_cons.1 h
    rw [countP_cons_mark hattributes, ih hes, htag, List.length_cons]
    ring

/-- the items of numbered parts, where the numbers do not count -/
theorem countP_flatMap_zipIdx {α : Type} {f : α × Nat → List Element} {g : α → Nat}
    (h : ∀ x i, (f (x, i)).countP (Element.Opens t) = g x) (xs : List α) :
    (xs.zipIdx.flatMap f).countP (Element.Opens t) = (xs.map g).sum := by
  have hparts : List.countP (Element.Opens t) ∘ f = g ∘ Prod.fst := by
    funext p
    exact h p.1 p.2
  rw [List.countP_flatMap, hparts, ← List.map_map, List.zipIdx_map_fst]

theorem countP_axis (f : Frame) (ticks : List Float) :
    (axis f ticks).countP (Element.Opens t) =
      ticks.length * (tally t "line" + tally t "text") + tally t "rect" + tally t "text" := by
  have hticks : (ticks.flatMap (tickMarks f)).countP (Element.Opens t) =
      ticks.length * (tally t "line" + tally t "text") := by
    induction ticks with
    | nil => simp
    | cons tick ticks ih =>
      rw [List.flatMap_cons, List.countP_append, ih, tickMarks, countP_cons_mark (List.cons_ne_nil _ _),
        countP_cons_mark (List.cons_ne_nil _ _), List.countP_nil, List.length_cons]
      ring
  rw [axis, List.countP_append, hticks, countP_cons_mark (List.cons_ne_nil _ _), countP_cons_mark (List.cons_ne_nil _ _),
    List.countP_nil]
  dsimp only [rect]
  ring

/-- an area is drawn once, and once more if it is hatched -/
theorem countP_area (x y width height : String) (more more' : List (String × String)) (hatched : Bool) :
    (rect x y width height more :: (if hatched then [rect x y width height more'] else [])).countP (Element.Opens t) =
      layers hatched * tally t "rect" := by
  have htag : ∀ e ∈ rect x y width height more :: (if hatched then [rect x y width height more'] else []),
      e.tag = "rect" ∧ e.attributes ≠ [] := by
    cases hatched with
    | false => simp [rect]
    | true => simp [rect]
  rw [countP_of_tag "rect" htag]
  cases hatched with
  | false => rfl
  | true => rfl

/-- the bars of a series are areas that are hatched if it is -/
theorem countP_bars (f : Frame) (c : Chart) :
    (bars f c).countP (Element.Opens t) =
      (c.series.map fun s => s.bars.length * layers s.hatched).sum * tally t "rect" := by
  rw [bars, countP_flatMap_zipIdx (g := fun s => s.bars.length * layers s.hatched * tally t "rect"),
    List.sum_map_mul_right]
  intro s i
  rw [countP_flatMap_zipIdx (g := fun _ => layers s.hatched * tally t "rect")]
  · simp [Nat.mul_assoc]
  · intro b j
    exact countP_area _ _ _ _ _ _ s.hatched

theorem countP_names (f : Frame) (c : Chart) :
    (names f c).countP (Element.Opens t) = c.names.length * tally t "text" := by
  rw [countP_of_tag "text", names, List.length_map, List.length_zipIdx]
  intro e he
  obtain ⟨⟨name, j⟩, -, rfl⟩ := List.mem_map.1 he
  exact ⟨rfl, List.cons_ne_nil _ _⟩

theorem countP_overflowLabels (f : Frame) (c : Chart) :
    (overflowLabels f c).countP (Element.Opens t) = c.overflow.length * tally t "text" := by
  rw [countP_of_tag "text", overflowLabels, List.length_map]
  intro e he
  obtain ⟨l, -, rfl⟩ := List.mem_map.1 he
  exact ⟨rfl, List.cons_ne_nil _ _⟩

theorem countP_legendMarks (left top : Float) (row : LegendRow) (k : Nat) :
    (legendMarks left top row k).countP (Element.Opens t) = layers row.hatched * tally t "rect" + tally t "text" := by
  rw [legendMarks, List.countP_append, countP_area, countP_cons_mark (List.cons_ne_nil _ _), List.countP_nil, Nat.add_zero]

/-- the legend has a box, and for each row a patch, drawn once more if it is hatched, and a label -/
theorem countP_legend (f : Frame) (c : Chart) :
    (legend f c).countP (Element.Opens t) =
      (1 + ((legendRows c).map fun row => layers row.hatched).sum) * tally t "rect" +
        (legendRows c).length * tally t "text" := by
  rw [legend, countP_cons_mark (List.cons_ne_nil _ _), countP_flatMap_zipIdx (countP_legendMarks _ _), List.sum_map_add,
    List.sum_map_mul_right]
  simp [rect]
  ring

theorem countP_marks (c : Chart) (size : FigureSize) (ticks : List Float) :
    (marks c size ticks).countP (Element.Opens t) =
      (3 + (c.series.map fun s => s.bars.length * layers s.hatched).sum +
        ((legendRows c).map fun row => layers row.hatched).sum) * tally t "rect" +
      ticks.length * tally t "line" +
      (ticks.length + (1 + c.names.length + c.overflow.length + (legendRows c).length)) * tally t "text" := by
  rw [marks, countP_cons_mark (List.cons_ne_nil _ _)]
  simp only [List.countP_append, countP_axis, countP_bars, countP_names, countP_overflowLabels, countP_legend]
  ring

end Items

/-! ## Items of a chart -/

/-- the rows of the legend are those of the series, and a hatched one if a bar is missing -/
theorem sum_layers_legendRows (c : Chart) :
    ((legendRows c).map fun row => layers row.hatched).sum =
      (c.series.map fun s => layers s.hatched).sum + if c.anyMissing then 2 else 0 := by
  rw [legendRows, List.map_append, List.sum_append, List.map_map]
  cases c.anyMissing with
  | false => rfl
  | true => rfl

theorem length_legendRows (c : Chart) :
    (legendRows c).length = c.series.length + if c.anyMissing then 1 else 0 := by
  rw [legendRows, List.length_append, List.length_map]
  cases c.anyMissing with
  | false => rfl
  | true => rfl

/-- **Every item of a chart is drawn once**, whatever texts there are. Where the ticks of the value axis end, the page
has for each bar and each row of the legend one rectangle, or two if it is hatched, and three more; and it has one text
for each name, overflow label and row of the legend, one at the axis, and one for each line at a tick. -/
theorem page_draws_each_item_once (c : Chart) (size : FigureSize) (title : String) {bound : Nat}
    (hticks : (Frame.ofChart c size).ticksWithin bound ≠ none) :
    ∃ page, renderWithin bound c size title = some page ∧
      count "<rect " page = 3 + (c.series.map fun s => s.bars.length * layers s.hatched).sum +
        (c.series.map fun s => layers s.hatched).sum + (if c.anyMissing then 2 else 0) ∧
      count "<text " page = count "<line " page +
        (1 + c.names.length + c.overflow.length + (c.series.length + if c.anyMissing then 1 else 0)) := by
  obtain ⟨ticks, hsome⟩ := Option.ne_none_iff_exists'.1 hticks
  have htags : "<rect ".toList = tagStart "rect" ∧ "<text ".toList = tagStart "text" ∧
      "<line ".toList = tagStart "line" := by
    decide
  have hrect := occurrences_page (t := "rect") (by decide) c size title ticks
  have htext := occurrences_page (t := "text") (by decide) c size title ticks
  have hline := occurrences_page (t := "line") (by decide) c size title ticks
  rw [countP_marks] at hrect htext hline
  refine ⟨String.join ((pageLines c size title ticks).map (· ++ "\n")), by rw [renderWithin, hsome]; rfl, ?_, ?_⟩
  · rw [count, htags.1, hrect, sum_layers_legendRows]
    simp [tally]
    ring
  · rw [count, htags.2.1, htext, count, htags.2.2, hline, length_legendRows]
    simp [tally]

/-- two names and two series under a limit barely above zero; the texts look like marks, and one bar is missing -/
def decoyChart : Chart where
  names := ["<rect ", "a"]
  series := [⟨"TestStream", "<text ", ⟨0.5, 0.25, 0.75⟩, false, [⟨"<rect ", 3.0, false⟩, ⟨"a", 1.0, false⟩]⟩,
    ⟨"TestStreamOpt", "</text><line ", ⟨0.5, 0.25, 0.75⟩, true, [⟨"<rect ", 3.0, true⟩, ⟨"a", 2.0, false⟩]⟩]
  limit := some 1e-323
  limit_pos := by decide +kernel

/-- texts that look like marks are not counted -/
theorem decoy_page_draws_each_item_once :
    (Frame.ofChart decoyChart ⟨8, 5⟩).ticksWithin tickBound ≠ none ∧
      ∃ page, render decoyChart ⟨8, 5⟩ "</title><rect " = some page ∧ count "<rect " page = 14 ∧
        count "<text " page = count "<line " page + 8 := by
  -- a fifth of the limit is zero, so the ticks are one apart and no logarithm is asked for
  have hticks : (Frame.ofChart decoyChart ⟨8, 5⟩).ticksWithin tickBound ≠ none := by decide +kernel
  have hmissing : decoyChart.anyMissing = true := rfl
  have hoverflow : decoyChart.overflow.length = 2 := by decide +kernel
  obtain ⟨page, hpage, hrect, htext⟩ := page_draws_each_item_once decoyChart ⟨8, 5⟩ "</title><rect " hticks
  refine ⟨hticks, page, hpage, ?_, ?_⟩
  · rw [hrect, hmissing]
    rfl
  · rw [htext, hmissing, hoverflow]
    rfl

end Benchwork.Page
