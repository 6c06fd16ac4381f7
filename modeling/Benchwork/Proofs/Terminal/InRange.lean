/-
What is looked up to show a loaded chart is there.

A load that succeeds gives a set with a group, and each of its groups has a name (`load_spec`). So a chart of it has names
and series, a bar for each name in each series, and overflow labels that point at bars (`Complete`). The group before each
group is told by a number that can be computed (`previousIndex?`).

The view of a terminal takes bars by the number of their name and the series and names of overflow labels by their
numbers. `clusters?` and `cutTexts?` are the same with lookups that can fail. For a complete chart they do not fail, and
have what the view shows (`clusters?_eq`, `cutTexts?_eq`); nor does such a chart lead to the box without data
(`loaded_chart_in_range`).
-/
import Benchwork.Proofs.Benchmark.Loading
import Benchwork.Proofs.Chart.Overflow
import Benchwork.Terminal.View

namespace Benchwork

open Benchwork.Benchmark

/-! ## Loaded sets -/

/-- a loaded set has a group, and every group has a name -/
theorem Benchmark.Load.load_spec {fs : FileStore} {files : List Path} {filter : Filter} {zero : ZeroPolicy} {s : Results}
    (h : Results.load fs files filter zero = .ok s) : s.WellFormed ∧ s.groups ≠ [] := by
  rw [load_eq] at h
  cases hparts : files.mapM (records fs zero) with
  | error e => rw [hparts] at h; cases h
  | ok parts =>
    rw [hparts] at h
    have hset : nonEmpty (gather filter parts) = .ok s := h
    unfold nonEmpty at hset
    split_ifs at hset with hempty
    obtain rfl := Except.ok.inj hset
    exact ⟨wellFormed_gather filter parts, by simpa [Results.isEmpty] using hempty⟩

theorem Benchmark.Results.WellFormed.names_ne_nil {s : Results} (h : s.WellFormed) (hgroups : s.groups ≠ []) :
    s.names ≠ [] := by
  obtain ⟨g, rest, hcons⟩ := List.exists_cons_of_ne_nil hgroups
  have hnamed := h g (hcons ▸ List.mem_cons_self)
  rw [names, hcons]
  simpa [Ordered.keys] using hnamed

namespace Chart

variable {c : Chart} {results : Results} {theme : Theme} {limit : Option Float}

/-! ## Complete charts -/

/-- there are names and series, a bar for each name in each series, and a bar for each overflow label -/
structure Complete (c : Chart) : Prop where
  names : c.names ≠ []
  series : c.series ≠ []
  bars : ∀ s ∈ c.series, s.bars.map (·.name) = c.names
  labels : ∀ l ∈ c.overflow, l.series < c.series.length ∧ l.bar < c.names.length

theorem complete_of_build (hresults : results.WellFormed) (hgroups : results.groups ≠ [])
    (hbuild : build results theme limit = .ok c) : c.Complete := by
  obtain ⟨-, -, hnames, -⟩ := build_eq_ok hbuild
  have hgrid := grid_of_build hbuild
  refine ⟨hnames ▸ hresults.names_ne_nil hgroups, ?_, hgrid.bars, ?_⟩
  · intro hnil
    have hlength := hgrid.series.length_eq
    rw [hnil, List.map_nil, List.length_nil, Ordered.keys, List.length_map] at hlength
    exact hgroups (List.length_eq_zero_iff.1 hlength.symm)
  · intro l hl
    obtain ⟨_, -, s, hs, -, b, hb, -⟩ := mem_overflow.1 hl
    have hlength : s.bars.length = c.names.length := by
      rw [← hgrid.bars s (List.mem_of_getElem? hs), List.length_map]
    exact ⟨(List.getElem?_eq_some_iff.1 hs).1, hlength ▸ (List.getElem?_eq_some_iff.1 hb).1⟩

/-! ## The group before -/

/-- the number of the group before the group with number `i` of `count` groups, provided that nothing is taken from zero or
divided by zero -/
def previousIndex? (count i : Nat) : Option Nat :=
  if 1 ≤ i + count ∧ 0 < count then some ((i + count - 1) % count) else none

/-- every series is drawn with the group before, whose number can be computed and is that of a group -/
def LooksBack (c : Chart) (groups : List (String × Scores)) : Prop :=
  ∀ i s, c.series[i]? = some s → ∃ k g p, previousIndex? groups.length i = some k ∧ groups[i]? = some g ∧
    groups[k]? = some p ∧ Draws c.names p.2 g s

theorem looksBack_of_build (hbuild : build results theme limit = .ok c) :
    ∃ groups, results.ordered = .ok groups ∧ c.LooksBack groups := by
  obtain ⟨groups, hgroups, hnames, hseries⟩ := build_eq_ok hbuild
  refine ⟨groups, hgroups, ?_⟩
  intro i s hs
  obtain ⟨hi, rfl⟩ := List.getElem?_eq_some_iff.1 hs
  have hi' : i < (withPrevious ((groups.getLast?.map (·.2)).getD []) groups).length := by rwa [hseries.length_eq]
  have hlt : i < groups.length := by
    rw [← map_snd_withPrevious ((groups.getLast?.map (·.2)).getD []) groups, List.length_map]
    exact hi'
  obtain ⟨p, hp, hpair⟩ := getElem?_withPrevious (List.getElem?_eq_getElem hlt)
  have hdraws := hseries.get hi' hi
  rw [List.get_eq_getElem, (List.getElem?_eq_some_iff.1 hpair).2] at hdraws
  refine ⟨_, groups[i], p, if_pos ⟨by omega, by omega⟩, List.getElem?_eq_getElem hlt, hp, ?_⟩
  rw [hnames]
  exact hdraws

end Chart

namespace Terminal

open Benchwork.Chart Benchwork.Text

variable {c : Chart}

/-! ## Lookups that can fail -/

/-- the bar of a series for name number `j`, if there is one -/
def column? (s : Series) (j : Nat) : Option Column :=
  s.bars[j]?.map fun b => ⟨scaled b.height, (if b.missing then missingColor else s.color).ink⟩

/-- the clusters, if every series has a bar for every name -/
def clusters? (c : Chart) : Option (List Cluster) :=
  c.names.zipIdx.mapM fun (name, j) => (c.series.mapM (column? · j)).map fun columns => ⟨name, columns⟩

/-- the text for one bar that is cut off, if its series and its name are there -/
def cutText? (c : Chart) (l : OverflowLabel) : Option String := do
  let s ← c.series[l.series]?
  let name ← c.names[l.bar]?
  return s.label ++ "/" ++ name ++ " " ++ l.text

theorem column?_eq {s : Series} {j : Nat} (h : j < s.bars.length) : column? s j = some (column s j) := by
  rw [column?, column, List.getElem?_eq_getElem h]
  rfl

/-- attempts that all succeed -/
theorem mapM_eq_some {α β : Type} {f : α → Option β} {g : α → β} {xs : List α} (h : ∀ x ∈ xs, f x = some (g x)) :
    xs.mapM f = some (xs.map g) := by
  induction xs with
  | nil => rfl
  | cons x xs ih =>
    rw [List.mapM_cons, h x List.mem_cons_self, ih fun y hy => h y (List.mem_cons_of_mem x hy)]
    rfl

theorem clusters?_eq (h : c.Complete) : clusters? c = some (clusters c) := by
  apply mapM_eq_some
  rintro ⟨name, j⟩ hmem
  have hj : j < c.names.length := (List.getElem?_eq_some_iff.1 (List.mk_mem_zipIdx_iff_getElem?.1 hmem)).1
  have hcolumns : c.series.mapM (column? · j) = some (c.series.map (column · j)) := by
    apply mapM_eq_some
    intro s hs
    apply column?_eq
    rw [← h.bars s hs, List.length_map] at hj
    exact hj
  simp only [hcolumns, Option.map_some]

theorem cutTexts?_eq (h : c.Complete) : c.overflow.mapM (cutText? c) = some (c.overflow.map (cutText c)) := by
  apply mapM_eq_some
  intro l hl
  obtain ⟨hseries, hbar⟩ := h.labels l hl
  rw [cutText?, cutText, List.getElem?_eq_getElem hseries, List.getElem?_eq_getElem hbar]
  rfl

/-! ## The view -/

/-- the box with the bars, and the legend under it -/
def drawFull (c : Chart) (theme : Theme) (title : String) (width height : Nat) : Screen :=
  let barRows := max (min height 5) (height - 3)
  let box : Area := ⟨0, 0, width, barRows⟩
  let s := drawBox (Screen.blank width height) box theme.border theme.title (" " ++ title ++ " ")
  drawLegend (drawBars s box.inner c) ⟨0, barRows, width, height - barRows⟩ c theme

theorem view_eq_drawFull (h : c.Complete) (theme : Theme) (title : String) (width height : Nat) :
    view c theme title width height = drawFull c theme title width height := by
  have hdata : (c.names.isEmpty || c.series.isEmpty) = false := by
    simp [h.names, h.series]
  rw [view, hdata]
  rfl

/-- **Drawing stays in range.** A chart of a loaded set has names and series, and whatever its drawing looks up is
there: the group before each group, the bar of every series for every name, and the series and the name of every
overflow label. It is never shown as a box without data. -/
theorem loaded_chart_in_range {fs : FileStore} {files : List Path} {filter : Filter} {zero : ZeroPolicy}
    {results : Results} (hload : Results.load fs files filter zero = .ok results) {theme : Theme} {limit : Option Float}
    (hbuild : Chart.build results theme limit = .ok c) :
    c.Complete ∧ (∃ groups, results.ordered = .ok groups ∧ c.LooksBack groups) ∧ clusters? c = some (clusters c) ∧
      c.overflow.mapM (cutText? c) = some (c.overflow.map (cutText c)) ∧
      ∀ theme title width height, view c theme title width height = drawFull c theme title width height := by
  obtain ⟨hformed, hgroups⟩ := Load.load_spec hload
  have hcomplete := complete_of_build hformed hgroups hbuild
  exact ⟨hcomplete, looksBack_of_build hbuild, clusters?_eq hcomplete, cutTexts?_eq hcomplete,
    view_eq_drawFull hcomplete⟩

/-- two groups with one score each, which do not share their names -/
def sparseFiles : FileStore where
  root := .dir
    [(Utf8.encode "a", .file (Utf8.encode "[[\"TestPush.sum\",\x7b\"score\":5\x7d,null,null]]") false),
     (Utf8.encode "b", .file (Utf8.encode "[[\"TestBaseline.max\",\x7b\"score\":7.5\x7d,null,null]]") false)]
  cwd := []

def sparseGroups : List (String × Scores) := [("TestBaseline", [("max", some 7.5)]), ("TestPush", [("sum", some 5.0)])]

theorem ordered_sparse {results : Results} (h : results.groups = sparseGroups) : results.ordered = .ok sparseGroups := by
  have hranked : sparseGroups.mapM Results.ranked =
      .ok [(0, "TestBaseline", [("max", some 7.5)]), (3, "TestPush", [("sum", some 5.0)])] := rfl
  rw [Results.ordered, h, hranked]
  simp [Except.map, List.mergeSort, sparseGroups]

/-- the second group has no score for the only name that is shown and borrows the first one's, which is cut off -/
theorem sparse_chart_in_range :
    ∃ results chart, Results.load sparseFiles [.ofString "a", .ofString "b"] {} .missing = .ok results ∧
      Chart.build results .standard (some 2.0) = .ok chart ∧ chart.names = ["max"] ∧
      chart.overflow = [⟨0, 0, "7"⟩, ⟨1, 0, "7"⟩] ∧ chart.Complete ∧ clusters? chart = some (clusters chart) ∧
      chart.overflow.mapM (cutText? chart) = some (chart.overflow.map (cutText chart)) ∧
      view chart .standard "out.json" 80 24 = drawFull chart .standard "out.json" 80 24 := by
  have hgroups : (Results.load sparseFiles [.ofString "a", .ofString "b"] {} .missing).toOption.map (·.groups) =
      some sparseGroups := by
    decide +kernel
  obtain ⟨results, hsome, hresults⟩ := Option.map_eq_some_iff.1 hgroups
  cases hload : Results.load sparseFiles [.ofString "a", .ofString "b"] {} .missing with
  | error e => rw [hload] at hsome; cases hsome
  | ok s =>
    rw [hload] at hsome
    obtain rfl := Option.some.inj hsome
    have hnames : s.names = ["max"] := by rw [Results.names, hresults]; rfl
    obtain ⟨chart, hchart, hoverflow⟩ : ∃ chart, Chart.build s .standard (some 2.0) = .ok chart ∧
        chart.overflow = [⟨0, 0, "7"⟩, ⟨1, 0, "7"⟩] := by
      rw [Chart.build, ordered_sparse hresults, hnames]
      exact ⟨_, rfl, by decide +kernel⟩
    obtain ⟨-, -, hchartNames, -⟩ := build_eq_ok hchart
    obtain ⟨hcomplete, -, hclusters, hcuts, hview⟩ := loaded_chart_in_range hload hchart
    exact ⟨s, chart, rfl, hchart, hchartNames.trans hnames, hoverflow, hcomplete, hclusters, hcuts, hview _ _ _ _⟩

end Terminal

end Benchwork
