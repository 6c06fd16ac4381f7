/-
The series of a chart.

The groups of a result set are put in display order (`perm_of_ordered`), which fails for a group outside of it and for no
other reason (`ordered_eq_error`). A chart has one series for each group in that order. `Draws` says how a series comes
from the scores of its group and of the group before, and `build_eq_ok` that this is so for all of them.
-/
import Mathlib.Tactic
import Benchwork.Chart.Model
import Benchwork.Proofs.Benchmark.Results

namespace Benchwork

open Benchwork.Benchmark

/-! ## Display order -/

theorem Benchmark.Results.ranked_eq_ok {g : String × Scores} {r : Nat × String × Scores} :
    ranked g = .ok r ↔ Group.rank? g.1 = some r.1 ∧ r.2 = g := by
  unfold ranked
  cases Group.rank? g.1 with
  | none => simp
  | some n => simp [Prod.ext_iff, eq_comm]

theorem Benchmark.Results.ranked_eq_error {g : String × Scores} {e : PlotError} :
    ranked g = .error e ↔ Group.rank? g.1 = none ∧ e = .unknownGroup g.1 := by
  unfold ranked
  cases Group.rank? g.1 with
  | none => simp [eq_comm]
  | some n => simp

theorem Benchmark.Results.ordered_eq_error {s : Results} {e : PlotError} (h : s.ordered = .error e) :
    ∃ g ∈ s.groups, Group.rank? g.1 = none ∧ e = .unknownGroup g.1 := by
  unfold ordered at h
  cases hranked : s.groups.mapM ranked with
  | error e' =>
    rw [hranked] at h
    obtain rfl := Except.error.inj h
    obtain ⟨g, hg, hunknown⟩ := mapM_eq_error hranked
    exact ⟨g, hg, ranked_eq_error.1 hunknown⟩
  | ok rs => rw [hranked] at h; cases h

/-- the groups in display order are the groups of the set -/
theorem Benchmark.Results.perm_of_ordered {s : Results} {groups : List (String × Scores)} (h : s.ordered = .ok groups) :
    groups.Perm s.groups := by
  unfold ordered at h
  cases hranked : s.groups.mapM ranked with
  | error e => rw [hranked] at h; cases h
  | ok rs =>
    have hgroups : s.groups = rs.map (·.2) := by
      rw [← List.forall₂_eq_eq_eq, List.forall₂_map_right_iff]
      exact (mapM_eq_ok hranked).imp fun g r hr => (ranked_eq_ok.1 hr).2.symm
    rw [hranked] at h
    rw [← Except.ok.inj h, hgroups]
    exact (List.mergeSort_perm rs _).map _

namespace Chart

/-! ## Series of groups -/

/-- the series of a group: a missing score is stood in for by the group before -/
structure Draws (names : List String) (previous : Scores) (g : String × Scores) (s : Series) : Prop where
  group : s.group = g.1
  label : s.label = Group.label g.1
  hatched : s.hatched = Group.isOptimized g.1
  bars : s.bars = names.map (bar g.2 previous)

theorem name_bar (scores previous : Scores) (n : String) : (bar scores previous n).name = n := by
  unfold bar
  cases scores.score? n with
  | none => rfl
  | some x => rfl

/-- a series has one bar for each name, in the order of the names -/
theorem Draws.names_bars {names : List String} {previous : Scores} {g : String × Scores} {s : Series}
    (h : Draws names previous g s) : s.bars.map (·.name) = names := by
  rw [h.bars, List.map_map]
  exact (List.map_congr_left fun n _ => name_bar g.2 previous n).trans (List.map_id names)

def withPrevious (previous : Scores) (groups : List (String × Scores)) : List (Scores × String × Scores) :=
  (previous :: groups.map (·.2)).zip groups

theorem map_snd_withPrevious (previous : Scores) (groups : List (String × Scores)) :
    (withPrevious previous groups).map (·.2) = groups :=
  List.map_snd_zip (by simp)

/-- series are those of the groups, in their order -/
theorem map_group_of_draws {names : List String} {previous : Scores} {groups : List (String × Scores)}
    {series : List Series}
    (h : List.Forall₂ (fun p s => Draws names p.1 p.2 s) (withPrevious previous groups) series) :
    series.map (·.group) = groups.map (·.1) := by
  rw [← map_snd_withPrevious previous groups, List.map_map, ← List.forall₂_eq_eq_eq, List.forall₂_map_left_iff,
    List.forall₂_map_right_iff]
  exact h.flip.imp fun s p hs => hs.group

def seriesOf (theme : Theme) (names : List String) (done : List Series) (used : Nat) (previous : Scores)
    (g : String × Scores) : Series :=
  ⟨g.1, Group.label g.1, (nextColor theme done used g.1).1, Group.isOptimized g.1, names.map (bar g.2 previous)⟩

theorem seriesFrom_cons (theme : Theme) (names : List String) (done : List Series) (used : Nat) (previous : Scores)
    (g : String × Scores) (groups : List (String × Scores)) :
    seriesFrom theme names done used previous (g :: groups) =
      seriesFrom theme names (done ++ [seriesOf theme names done used previous g]) (nextColor theme done used g.1).2 g.2
        groups :=
  rfl

theorem draws_seriesFrom (theme : Theme) (names : List String) (done : List Series) (used : Nat) (previous : Scores)
    (groups : List (String × Scores)) :
    ∃ new, seriesFrom theme names done used previous groups = done ++ new ∧
      List.Forall₂ (fun p s => Draws names p.1 p.2 s) (withPrevious previous groups) new := by
  -- what is done has a say in the color of the next series only
  induction groups generalizing done used previous with
  | nil => exact ⟨[], (List.append_nil done).symm, .nil⟩
  | cons g groups ih =>
    have hnext : Draws names previous g (seriesOf theme names done used previous g) := ⟨rfl, rfl, rfl, rfl⟩
    rw [seriesFrom_cons]
    obtain ⟨new, hnew, hdraws⟩ := ih (done ++ [seriesOf theme names done used previous g])
      (nextColor theme done used g.1).2 g.2
    refine ⟨seriesOf theme names done used previous g :: new, ?_, .cons hnext hdraws⟩
    rw [hnew, List.append_assoc]
    rfl

theorem build_eq_error {results : Results} {theme : Theme} {limit : Option Float} {e : PlotError} :
    build results theme limit = .error e ↔ results.ordered = .error e := by
  unfold build
  cases results.ordered with
  | error e' => simp [Except.map]
  | ok groups => simp [Except.map]

/-- a chart is built from the groups in their order -/
theorem eq_of_build {results : Results} {theme : Theme} {limit : Option Float} {chart : Chart}
    (h : build results theme limit = .ok chart) :
    ∃ groups, results.ordered = .ok groups ∧ chart.names = results.names ∧
      chart.series = seriesFrom theme results.names [] 0 ((groups.getLast?.map (·.2)).getD []) groups ∧
      chart.limit = limit.filter (· > 0.0) := by
  unfold build at h
  cases hgroups : results.ordered with
  | error e => rw [hgroups] at h; cases h
  | ok groups =>
    rw [hgroups] at h
    obtain rfl := Except.ok.inj h
    exact ⟨groups, rfl, rfl, rfl, rfl⟩

theorem build_eq_ok {results : Results} {theme : Theme} {limit : Option Float} {chart : Chart}
    (h : build results theme limit = .ok chart) :
    ∃ groups, results.ordered = .ok groups ∧ chart.names = results.names ∧
      List.Forall₂ (fun p s => Draws results.names p.1 p.2 s)
        (withPrevious ((groups.getLast?.map (·.2)).getD []) groups) chart.series := by
  obtain ⟨groups, hgroups, hnames, hseries, -⟩ := eq_of_build h
  obtain ⟨new, hnew, hdraws⟩ := draws_seriesFrom theme results.names [] 0
    ((groups.getLast?.map (·.2)).getD []) groups
  refine ⟨groups, hgroups, hnames, ?_⟩
  rw [hseries, hnew]
  exact hdraws

end Chart

end Benchwork
