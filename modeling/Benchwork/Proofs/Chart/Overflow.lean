/-
Labels of bars that are cut off.

The labels of a chart are in the order of the series and, in a series, of the bars (`pairwise_overflow`). Where a limit
above zero is given, they are those of the bars that reach it, except for hatched series, whether a height is measured or
stands in for a missing one; otherwise there are none (`build_labels_bars_that_reach_limit`).

A label tells the height of its bar without the fraction. It does so in the 64-bit integers: every height beyond them has
the same label (`tall_bar_label_is_not_its_height`).
-/
import Benchwork.Proofs.Chart.StandIns
import Benchwork.Proofs.Number.Exact

namespace Benchwork.Chart

open Benchwork.Benchmark Benchwork.Number

/-! ## Order -/

/-- the first label is for an earlier series, or for an earlier bar of the same series -/
def OverflowLabel.Before (l l' : OverflowLabel) : Prop := l.series < l'.series ∨ l.series = l'.series ∧ l.bar < l'.bar

theorem pairwise_zipIdx {α : Type} (l : List α) : l.zipIdx.Pairwise fun a b => a.2 < b.2 := by
  have hindices : (l.zipIdx.map Prod.snd).Pairwise (· < ·) := by
    rw [List.zipIdx_map_snd]
    exact List.pairwise_lt_range'
  exact List.pairwise_map.1 hindices

section Overflow

variable {limit : Float} {i : Nat} {s : Series} {l : OverflowLabel} {c : Chart}

theorem mem_seriesOverflow : l ∈ seriesOverflow limit i s ↔
    s.hatched = false ∧ l.series = i ∧ ∃ b, s.bars[l.bar]? = some b ∧ b.height ≥ limit ∧
      l.text = toString (toIntWithin64 b.height) := by
  obtain ⟨_, j, text⟩ := l
  unfold seriesOverflow
  cases s.hatched with
  | true => simp
  | false =>
    simp only [Bool.false_eq_true, if_false, List.mem_map, List.mem_filter, decide_eq_true_eq, Prod.exists,
      List.mk_mem_zipIdx_iff_getElem?, OverflowLabel.mk.injEq, true_and]
    constructor
    · rintro ⟨b, j, ⟨hb, hreach⟩, rfl, rfl, rfl⟩
      exact ⟨rfl, b, hb, hreach, rfl⟩
    · rintro ⟨rfl, b, hb, hreach, rfl⟩
      exact ⟨b, j, ⟨hb, hreach⟩, rfl, rfl, rfl⟩

theorem pairwise_seriesOverflow (limit : Float) (i : Nat) (s : Series) :
    (seriesOverflow limit i s).Pairwise OverflowLabel.Before := by
  unfold seriesOverflow
  split_ifs
  · exact .nil
  · rw [List.pairwise_map]
    exact ((pairwise_zipIdx s.bars).filter _).imp fun hlt => .inr ⟨rfl, hlt⟩

theorem mem_overflow : l ∈ c.overflow ↔ ∃ limit, c.limit = some limit ∧ ∃ s, c.series[l.series]? = some s ∧
    s.hatched = false ∧ ∃ b, s.bars[l.bar]? = some b ∧ b.height ≥ limit ∧
      l.text = toString (toIntWithin64 b.height) := by
  unfold overflow
  cases c.limit with
  | none => simp
  | some limit =>
    simp only [List.mem_flatMap, Prod.exists, List.mk_mem_zipIdx_iff_getElem?, mem_seriesOverflow, Option.some.injEq,
      exists_eq_left']
    constructor
    · rintro ⟨s, i, hs, hhatched, rfl, hbar⟩
      exact ⟨s, hs, hhatched, hbar⟩
    · rintro ⟨s, hs, hhatched, hbar⟩
      exact ⟨s, l.series, hs, hhatched, rfl, hbar⟩

/-- labels go by series and then by bar, so no bar has two -/
theorem pairwise_overflow (c : Chart) : c.overflow.Pairwise OverflowLabel.Before := by
  unfold overflow
  cases c.limit with
  | none => exact .nil
  | some limit =>
    rw [List.pairwise_flatMap]
    refine ⟨fun a _ => pairwise_seriesOverflow limit a.2 a.1, (pairwise_zipIdx c.series).imp fun {a b} hlt => ?_⟩
    intro l hl l' hl'
    obtain ⟨-, hseries, -⟩ := mem_seriesOverflow.1 hl
    obtain ⟨-, hseries', -⟩ := mem_seriesOverflow.1 hl'
    exact .inl (by rw [hseries, hseries']; exact hlt)

end Overflow

/-! ## Texts -/

/-- the text tells a height without its fraction if that is a 64-bit integer, and else the greatest of these -/
structure Tells (text : String) (height : Float) : Prop where
  whole : ∀ q, value? height = some q → q < 2 ^ 63 → text = toString ⌊q⌋
  beyond : (∀ q, value? height = some q → 2 ^ 63 ≤ q) → text = "9223372036854775807"

theorem tells_iff {height : Float} (h : height > 0.0) {text : String} :
    Tells text height ↔ text = toString (toIntWithin64 height) := by
  have hgreatest : toString (2 ^ 63 - 1 : Int) = "9223372036854775807" := by decide +kernel
  constructor
  · intro htells
    by_cases hwhole : ∃ q, value? height = some q ∧ q < 2 ^ 63
    · obtain ⟨q, hq, hlt⟩ := hwhole
      rw [htells.whole q hq hlt, toIntWithin64_of_lt h hq hlt]
    · have hbeyond : ∀ q, value? height = some q → 2 ^ 63 ≤ q := fun q hq =>
        not_lt.1 fun hlt => hwhole ⟨q, hq, hlt⟩
      rw [htells.beyond hbeyond, toIntWithin64_of_beyond h hbeyond, hgreatest]
  · intro htext
    refine ⟨fun q hq hlt => ?_, fun hbeyond => ?_⟩
    · rw [htext, toIntWithin64_of_lt h hq hlt]
    · rw [htext, toIntWithin64_of_beyond h hbeyond, hgreatest]

/-! ## Charts that are built -/

section Build

variable {results : Results} {theme : Theme} {limit : Option Float} {c : Chart}

theorem limit_of_build (hbuild : build results theme limit = .ok c) : c.limit = limit.filter (· > 0.0) := by
  obtain ⟨-, -, -, -, hlimit⟩ := eq_of_build hbuild
  exact hlimit

/-- a limit that is not above zero is none -/
theorem build_of_not_pos (h : ∀ y, limit = some y → ¬ y > 0.0) :
    build results theme limit = build results theme none := by
  have hfilter : limit.filter (· > 0.0) = none := by
    rw [Option.filter_eq_none_iff]
    intro y hy
    simpa using h y hy
  simp only [build, hfilter, Option.filter_none]

theorem hatched_of_build (hbuild : build results theme limit = .ok c) {s : Series} (hs : s ∈ c.series) :
    s.hatched = Group.isOptimized s.group := by
  obtain ⟨g, -, previous, hdraws⟩ := exists_draws hbuild hs
  rw [hdraws.hatched, hdraws.group]

end Build

/-- **The bars that reach the limit have labels.** A set over known groups gives a chart with labels for the bars that
reach a limit above zero, in the order of series and bars and each once, except for the series of optimized groups.
Without such a limit there are no labels, and the chart is the one without a limit. -/
theorem build_labels_bars_that_reach_limit {results : Results}
    (hknown : ∀ g ∈ Ordered.keys results.groups, g ∈ Group.displayOrder) (theme : Theme) (limit : Option Float) :
    ∃ chart, build results theme limit = .ok chart ∧ chart.BackFilled results ∧
      chart.overflow.Pairwise OverflowLabel.Before ∧
      (∀ l, l ∈ chart.overflow ↔ ∃ y g b, limit = some y ∧ y > 0.0 ∧ results.shown[l.series]? = some g ∧
        Group.isOptimized g = false ∧ chart.barAt? l.series l.bar = some (g, b) ∧ b.height ≥ y ∧
        Tells l.text b.height) ∧
      ((∀ y, limit = some y → ¬ y > 0.0) → chart.overflow = [] ∧ build results theme none = .ok chart) := by
  obtain ⟨chart, hchart⟩ : ∃ chart, build results theme limit = .ok chart := exists_build_of_known hknown
  have hfilled := backFilled_of_build hchart
  refine ⟨chart, hchart, hfilled, pairwise_overflow chart, fun l => ?_, fun hnone => ⟨?_, ?_⟩⟩
  · rw [mem_overflow, limit_of_build hchart]
    simp only [Option.filter_eq_some_iff, decide_eq_true_eq]
    constructor
    · rintro ⟨y, ⟨hlimit, hpos⟩, s, hs, hhatched, b, hb, hreach, htext⟩
      have hgroup : results.shown[l.series]? = some s.group := by rw [← hfilled.groups, List.getElem?_map, hs]; rfl
      rw [hatched_of_build hchart (List.mem_of_getElem? hs)] at hhatched
      exact ⟨y, s.group, b, hlimit, hpos, hgroup, hhatched, barAt?_eq_some.2 ⟨s, hs, hb, rfl⟩, hreach,
        (tells_iff (pos_of_ge_pos hpos hreach)).2 htext⟩
    · rintro ⟨y, g, b, hlimit, hpos, -, hplain, hbar, hreach, htells⟩
      obtain ⟨s, hs, hb, rfl⟩ := barAt?_eq_some.1 hbar
      rw [← hatched_of_build hchart (List.mem_of_getElem? hs)] at hplain
      exact ⟨y, ⟨hlimit, hpos⟩, s, hs, hplain, b, hb, hreach, (tells_iff (pos_of_ge_pos hpos hreach)).1 htells⟩
  · rw [build_of_not_pos hnone] at hchart
    rw [overflow, limit_of_build hchart]
    rfl
  · rw [← build_of_not_pos hnone, hchart]

/-- a group without a score for the first name, and its optimized variant, which reaches the limit of 100 there -/
def loftyResults : Results where
  groups := [("TestStream", [("a", none), ("b", some 250.7)]), ("TestStreamOpt", [("a", some 300.0), ("b", some 5.0)])]

/-- the height that stands in has a label, though it is that of an optimized group, which has none itself -/
theorem lofty_results_labelled :
    (∀ g ∈ Ordered.keys loftyResults.groups, g ∈ Group.displayOrder) ∧
      ∃ chart, build loftyResults .standard (some 100.0) = .ok chart ∧ ⟨0, 0, "300"⟩ ∈ chart.overflow ∧
        ⟨0, 1, "250"⟩ ∈ chart.overflow ∧ ∀ l ∈ chart.overflow, l.series = 0 := by
  have hknown : ∀ g ∈ Ordered.keys loftyResults.groups, g ∈ Group.displayOrder := by decide +kernel
  have hshown : loftyResults.shown = ["TestStream", "TestStreamOpt"] := by decide +kernel
  have hplain : Group.isOptimized "TestStream" = false := by decide +kernel
  obtain ⟨chart, hchart, hfilled, -, hlabels, -⟩ :=
    build_labels_bars_that_reach_limit hknown .standard (some 100.0)
  have hbars := hfilled.standsFor
  rw [hshown] at hbars hlabels
  refine ⟨hknown, chart, hchart, ?_, ?_, fun l hl => ?_⟩
  · obtain ⟨previous, b, hprevious, hb, hstands⟩ := hbars 0 0 "TestStream" "a" rfl rfl
    obtain rfl : "TestStreamOpt" = previous := Option.some.inj hprevious
    have hheight : b.height = 300.0 := hstands.borrowed rfl 300.0 rfl
    refine (hlabels _).2 ⟨100.0, "TestStream", b, rfl, by decide +kernel, rfl, hplain, hb, ?_, ?_⟩
    · rw [hheight]
      decide +kernel
    · rw [hheight]
      exact (tells_iff (by decide +kernel)).2 (by decide +kernel)
  · obtain ⟨previous, b, -, hb, hstands⟩ := hbars 0 1 "TestStream" "b" rfl rfl
    have hheight : b.height = 250.7 := hstands.shows.2 250.7 rfl
    refine (hlabels _).2 ⟨100.0, "TestStream", b, rfl, by decide +kernel, rfl, hplain, hb, ?_, ?_⟩
    · rw [hheight]
      decide +kernel
    · rw [hheight]
      exact (tells_iff (by decide +kernel)).2 (by decide +kernel)
  · obtain ⟨y, g, b, -, -, hgroup, hoptimized, -⟩ := (hlabels l).1 hl
    have hlt : l.series < 2 := (List.getElem?_eq_some_iff.1 hgroup).1
    obtain hzero | hone : l.series = 0 ∨ l.series = 1 := by omega
    · exact hzero
    · rw [hone] at hgroup
      obtain rfl : "TestStreamOpt" = g := Option.some.inj hgroup
      exact absurd hoptimized (by decide +kernel)

/-- a score that is no 64-bit integer -/
def tallResults : Results where
  groups := [("TestStream", [("a", some 1e19)])]

/-- the label of a bar that is taller than the 64-bit integers reach is not its height without the fraction -/
theorem tall_bar_label_is_not_its_height :
    ∃ chart b, build tallResults .standard (some 100.0) = .ok chart ∧ chart.barAt? 0 0 = some ("TestStream", b) ∧
      value? b.height = some (10 ^ 19) ∧ chart.overflow = [⟨0, 0, "9223372036854775807"⟩] ∧
      toString ⌊(10 ^ 19 : ℚ)⌋ = "10000000000000000000" := by
  have hranked : tallResults.groups.mapM Results.ranked = .ok [(1, "TestStream", [("a", some 1e19)])] := rfl
  have hordered : tallResults.ordered = .ok tallResults.groups := by
    rw [Results.ordered, hranked]
    simp [Except.map, tallResults]
  have hvalue : value? 1e19 = some (10 ^ 19) := by
    have hbinary : Binary.ofFloat? 1e19 = some ⟨false, 4882812500000000, 11⟩ := by decide +kernel
    rw [value?, hbinary]
    norm_num [Binary.value]
  have hfloor : ⌊(10 ^ 19 : ℚ)⌋ = 10 ^ 19 := Int.floor_eq_iff.2 ⟨by norm_num, by norm_num⟩
  rw [build, hordered]
  refine ⟨_, ⟨"a", 1e19, false⟩, rfl, rfl, hvalue, ?_, ?_⟩
  · decide +kernel
  · rw [hfloor]
    decide +kernel

end Benchwork.Chart
