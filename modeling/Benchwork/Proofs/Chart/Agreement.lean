/-
Table and chart of one result set.

Both put the groups in display order and fail alike. Otherwise the table has a row for each series of the chart and a
column for each of its names, and a cell says what its bar does: it reads `inf` where the bar is marked as missing, and
has the height of the bar where it is not (`table_agrees_with_chart`). The bars that stand in for missing measurements
have a height too, which the table does not show. Scores are taken to be finite, since an infinite one would read `inf`
as well.
-/
import Benchwork.Proofs.Chart.Series
import Benchwork.Proofs.Number.Finite
import Benchwork.Proofs.Ordered
import Benchwork.Table

namespace Benchwork

open Benchwork.Benchmark

def Benchmark.Results.Finite (s : Results) : Prop :=
  ∀ g ∈ s.groups, ∀ b ∈ g.2, ∀ x ∈ b.2, Number.isFinite x = true

namespace Table

/-! ## Cells and rows -/

/-- the cell says what the bar does -/
def CellShows (cell : String) (b : Chart.Bar) : Prop :=
  (cell = "inf" ↔ b.missing = true) ∧ (b.missing = false → cell = Number.fixed 3 b.height)

/-- the row has the group of the series and a cell for each of its bars, which are those of the names -/
def RowShows (names : List String) (row : List String) (s : Chart.Series) : Prop :=
  s.bars.map (·.name) = names ∧ ∃ cells, row = s.group :: cells ∧ List.Forall₂ CellShows cells s.bars

theorem scoreText_none : scoreText none = "inf" := by decide +kernel

theorem cellShows_bar {scores : Scores} (previous : Scores) (n : String)
    (h : ∀ x, scores.score? n = some x → Number.isFinite x = true) :
    CellShows (scoreText (scores.score? n)) (Chart.bar scores previous n) := by
  unfold Chart.bar
  cases hscore : scores.score? n with
  | none => exact ⟨⟨fun _ => rfl, fun _ => scoreText_none⟩, fun hmissing => by cases hmissing⟩
  | some x =>
    have hne : scoreText (some x) ≠ "inf" := Number.fixed_ne_inf (h x hscore) 3
    exact ⟨⟨fun hinf => absurd hinf hne, fun hmissing => by cases hmissing⟩, fun _ => rfl⟩

theorem rowShows_groupRow {names : List String} {previous : Scores} {g : String × Scores} {s : Chart.Series}
    (hs : Chart.Draws names previous g s) (h : ∀ n x, g.2.score? n = some x → Number.isFinite x = true) :
    RowShows names (groupRow names g) s := by
  refine ⟨hs.names_bars, names.map fun n => scoreText (g.2.score? n), by rw [hs.group]; rfl, ?_⟩
  rw [hs.bars, List.forall₂_map_left_iff, List.forall₂_map_right_iff, List.forall₂_same]
  exact fun n _ => cellShows_bar previous n (h n)

/-! ## The whole table -/

theorem finite_of_ordered {s : Results} (h : s.Finite) {groups : List (String × Scores)}
    (hgroups : s.ordered = .ok groups) {g : String × Scores} (hg : g ∈ groups) {n : String} {x : Float}
    (hx : g.2.score? n = some x) : Number.isFinite x = true := by
  have hentry : g.2.lookup n = some (some x) := Option.join_eq_some_iff.1 hx
  exact h g ((Results.perm_of_ordered hgroups).mem_iff.1 hg) (n, some x) (Ordered.mem_of_lookup hentry) x rfl

theorem render_eq_error {results : Results} {e : PlotError} :
    render results = .error e ↔ results.ordered = .error e := by
  unfold render rowTexts
  cases results.ordered with
  | error e' => simp [Except.map]
  | ok groups => simp [Except.map]

/-- **Table and chart agree.** They fail with the same unknown group, or they have the same groups, names and
measurements. -/
theorem table_agrees_with_chart {results : Results} (hfinite : results.Finite) (theme : Chart.Theme)
    (limit : Option Float) :
    (∀ e, render results = .error e ↔ Chart.build results theme limit = .error e) ∧
    (∀ e, Chart.build results theme limit = .error e →
      ∃ g ∈ Ordered.keys results.groups, Group.rank? g = none ∧ e = .unknownGroup g) ∧
    ∀ chart, Chart.build results theme limit = .ok chart →
      ∃ rows, rowTexts results = .ok (("Group" :: chart.names) :: rows) ∧
        render results = .ok ("\n".intercalate (layout (("Group" :: chart.names) :: rows))) ∧
        List.Forall₂ (RowShows chart.names) rows chart.series := by
  refine ⟨fun e => render_eq_error.trans Chart.build_eq_error.symm, fun e he => ?_, fun chart hchart => ?_⟩
  · obtain ⟨g, hg, hrank, rfl⟩ := Results.ordered_eq_error (Chart.build_eq_error.1 he)
    exact ⟨g.1, List.mem_map_of_mem hg, hrank, rfl⟩
  · obtain ⟨groups, hgroups, hnames, hseries⟩ := Chart.build_eq_ok hchart
    have hrows : rowTexts results = .ok (("Group" :: results.names) :: groups.map (groupRow results.names)) := by
      rw [rowTexts, hgroups]
      rfl
    rw [hnames]
    refine ⟨groups.map (groupRow results.names), hrows, by rw [render, hrows]; rfl, ?_⟩
    -- the group before counts only for the bars that stand in, so a row need not know which one it is
    have hdraws : List.Forall₂ (fun g s => ∃ previous, Chart.Draws results.names previous g s) groups chart.series := by
      rw [← Chart.map_snd_withPrevious ((groups.getLast?.map (·.2)).getD []) groups, List.forall₂_map_left_iff]
      exact hseries.imp fun p s hs => ⟨p.1, hs⟩
    have hscores : ∀ g ∈ groups, ∀ n x, g.2.score? n = some x → Number.isFinite x = true :=
      fun g hg n x hx => finite_of_ordered hfinite hgroups hg hx
    rw [List.forall₂_map_left_iff]
    exact ((List.forall₂_and_left _ _).2 ⟨hscores, hdraws⟩).imp fun g s ⟨hg, _, hs⟩ => rowShows_groupRow hs hg

/-- an explicit missing score, and in the other groups a name that is not there -/
def unevenResults : Results where
  groups := [("TestBaseline", [("a", none), ("b", some 2.0)]), ("TestPush", [("a", some 12.5)]),
    ("TestStream", [("b", some 0.5)])]

theorem ordered_unevenResults : unevenResults.ordered =
    .ok [("TestBaseline", [("a", none), ("b", some 2.0)]), ("TestStream", [("b", some 0.5)]),
      ("TestPush", [("a", some 12.5)])] := by
  have hranked : unevenResults.groups.mapM Results.ranked =
      .ok [(0, "TestBaseline", [("a", none), ("b", some 2.0)]), (3, "TestPush", [("a", some 12.5)]),
        (1, "TestStream", [("b", some 0.5)])] := rfl
  rw [Results.ordered, hranked]
  simp [Except.map, List.mergeSort]

theorem finite_unevenResults : unevenResults.Finite := by
  unfold Results.Finite
  decide +kernel

theorem uneven_results_agree :
    unevenResults.Finite ∧ ∃ chart, Chart.build unevenResults .standard none = .ok chart ∧
      List.Forall₂ (RowShows ["a", "b"])
        [["TestBaseline", "inf", "2.000"], ["TestStream", "inf", "0.500"], ["TestPush", "12.500", "inf"]]
        chart.series := by
  obtain ⟨chart, hchart⟩ : ∃ chart, Chart.build unevenResults .standard none = .ok chart := by
    rw [Chart.build, ordered_unevenResults]
    exact ⟨_, rfl⟩
  obtain ⟨rows, hrows, -, hshow⟩ := (table_agrees_with_chart finite_unevenResults .standard none).2.2 chart hchart
  have htexts : rowTexts unevenResults =
      .ok [["Group", "a", "b"], ["TestBaseline", "inf", "2.000"], ["TestStream", "inf", "0.500"],
        ["TestPush", "12.500", "inf"]] := by
    rw [rowTexts, ordered_unevenResults]
    exact congrArg Except.ok (by decide +kernel)
  obtain ⟨hhead, rfl⟩ := List.cons.inj (Except.ok.inj (hrows.symm.trans htexts))
  rw [(List.cons.inj hhead).2] at hshow
  exact ⟨finite_unevenResults, chart, hchart, hshow⟩

end Table

end Benchwork
