/-
Bars that stand in for missing measurements.

The groups of a chart are those of the set, in display order (`map_ordered`). Each is drawn with the scores of the group
before it, the last one coming before the first (`getElem?_withPrevious`). So where a group has no number for a name, its
bar has the number of the group before, if there is one, and never a height that stands in itself
(`build_fills_from_group_before`). A lone group comes before itself and has nothing to lend.
-/
import Benchwork.Proofs.Chart.Measurements

namespace Benchwork

open Benchwork.Benchmark

/-! ## Groups in display order -/

namespace Benchmark

/-- the groups of the set in display order -/
def Results.shown (s : Results) : List String := Group.displayOrder.filter fun g => g ∈ Ordered.keys s.groups

def Group.NotAfter (g g' : String) : Prop := ∃ m ∈ rank? g, ∃ n ∈ rank? g', m ≤ n

theorem Group.getElem?_of_rank? {g : String} {n : Nat} (h : rank? g = some n) : displayOrder[n]? = some g := by
  obtain ⟨hn, hg, -⟩ := List.findIdx?_eq_some_iff_getElem.1 h
  rw [List.getElem?_eq_getElem hn]
  simpa using hg

theorem Group.NotAfter.antisymm {g g' : String} (h : NotAfter g g') (h' : NotAfter g' g) : g = g' := by
  obtain ⟨m, hm, n, hn, hle⟩ := h
  obtain ⟨n', hn', m', hm', hle'⟩ := h'
  obtain rfl : m = m' := Option.some.inj (hm.symm.trans hm')
  obtain rfl : n = n' := Option.some.inj (hn.symm.trans hn')
  obtain rfl : m = n := Nat.le_antisymm hle hle'
  exact Option.some.inj ((getElem?_of_rank? hm).symm.trans (getElem?_of_rank? hn))

theorem Group.pairwise_displayOrder : displayOrder.Pairwise NotAfter := by
  unfold NotAfter
  decide

namespace Results

/-- groups that are put in order have a place in the display order, each not after those behind it -/
theorem pairwise_ordered {s : Results} {groups : List (String × Scores)} (h : s.ordered = .ok groups) :
    (∀ g ∈ groups, g.1 ∈ Group.displayOrder) ∧ (groups.map (·.1)).Pairwise Group.NotAfter := by
  unfold ordered at h
  cases hranked : s.groups.mapM ranked with
  | error e => rw [hranked] at h; cases h
  | ok rs =>
    rw [hranked] at h
    obtain rfl := Except.ok.inj h
    have hrank : ∀ r ∈ rs, Group.rank? r.2.1 = some r.1 := by
      intro r hr
      obtain ⟨i, hi, rfl⟩ := List.mem_iff_getElem.1 hr
      have hall := mapM_eq_ok hranked
      obtain ⟨hrank, hsame⟩ := ranked_eq_ok.1 (hall.get (by rwa [hall.length_eq]) hi)
      rw [← hsame] at hrank
      exact hrank
    have hsorted : (rs.mergeSort fun a b => a.1 ≤ b.1).Pairwise fun a b => decide (a.1 ≤ b.1) = true := by
      refine List.pairwise_mergeSort (fun a b c hab hbc => ?_) (fun a b => ?_) rs
      · simp only [decide_eq_true_eq] at hab hbc ⊢
        exact hab.trans hbc
      · simpa using Nat.le_total a.1 b.1
    constructor
    · intro g hg
      obtain ⟨r, hr, rfl⟩ := List.mem_map.1 hg
      exact List.mem_of_getElem? (Group.getElem?_of_rank? (hrank r (List.mem_mergeSort.1 hr)))
    · rw [List.map_map, List.pairwise_map]
      refine hsorted.imp_of_mem fun {a b} ha hb hle => ⟨a.1, ?_, b.1, ?_, of_decide_eq_true hle⟩
      · exact hrank a (List.mem_mergeSort.1 ha)
      · exact hrank b (List.mem_mergeSort.1 hb)

/-- putting the groups in order takes from the display order those that are there -/
theorem map_ordered {s : Results} {groups : List (String × Scores)} (h : s.ordered = .ok groups) :
    groups.map (·.1) = s.shown := by
  obtain ⟨hknown, hpairwise⟩ := pairwise_ordered h
  have hperm : (groups.map (·.1)).Perm (Ordered.keys s.groups) := (perm_of_ordered h).map _
  have hshown : s.shown.Perm (Ordered.keys s.groups) := by
    refine (List.perm_ext_iff_of_nodup ?_ s.sorted.nodup_keys).2 fun g => ?_
    · exact List.Nodup.filter _ (by decide)
    · have hdisplay : g ∈ Ordered.keys s.groups → g ∈ Group.displayOrder := by
        intro hg
        obtain ⟨g, hmem, rfl⟩ := List.mem_map.1 (hperm.mem_iff.2 hg)
        exact hknown g hmem
      simpa [shown] using hdisplay
  refine (hperm.trans hshown.symm).eq_of_pairwise (fun g g' _ _ => Group.NotAfter.antisymm) hpairwise ?_
  exact Group.pairwise_displayOrder.filter _

end Results

end Benchmark

namespace Chart

/-! ## The group before -/

/-- every group is drawn with the scores of the one before it in the circle of groups -/
theorem getElem?_withPrevious {groups : List (String × Scores)} {i : Nat} {g : String × Scores}
    (hg : groups[i]? = some g) :
    ∃ p, groups[(i + groups.length - 1) % groups.length]? = some p ∧
      (withPrevious ((groups.getLast?.map (·.2)).getD []) groups)[i]? = some (p.2, g) := by
  obtain ⟨hi, -⟩ := List.getElem?_eq_some_iff.1 hg
  have hpairs : ∀ previous p, (previous :: groups.map (·.2))[i]? = some p →
      (withPrevious previous groups)[i]? = some (p, g) := by
    intro previous p hp
    rw [withPrevious, List.getElem?_zip_eq_some]
    exact ⟨hp, hg⟩
  cases i with
  | zero =>
    -- the first one comes after the last
    have hlast : (0 + groups.length - 1) % groups.length = groups.length - 1 := by
      rw [Nat.zero_add]
      exact Nat.mod_eq_of_lt (by omega)
    have hne : groups ≠ [] := List.ne_nil_of_length_pos hi
    obtain ⟨p, hp⟩ : ∃ p, groups.getLast? = some p := ⟨_, List.getLast?_eq_getLast_of_ne_nil hne⟩
    refine ⟨p, by rw [hlast, ← List.getLast?_eq_getElem?, hp], hpairs _ _ ?_⟩
    rw [hp]
    rfl
  | succ i =>
    have hbefore : (i + 1 + groups.length - 1) % groups.length = i := by
      rw [Nat.add_right_comm, Nat.add_sub_cancel, Nat.add_mod_right]
      exact Nat.mod_eq_of_lt (by omega)
    have hi' : i < groups.length := by omega
    refine ⟨groups[i], by rw [hbefore, List.getElem?_eq_getElem hi'], hpairs _ _ ?_⟩
    rw [List.getElem?_cons_succ, List.getElem?_map, List.getElem?_eq_getElem hi']
    rfl

/-! ## Stand-ins -/

/-- the bar of a group for a name: it shows the score of the group, and stands in with the score of the group before if
there is none, or with nothing if that group has none either -/
structure Bar.StandsFor (b : Bar) (results : Results) (previous group n : String) : Prop where
  name : b.name = n
  shows : b.Shows (results.score? group n)
  borrowed : results.score? group n = none → ∀ x, results.score? previous n = some x → b.height = x
  empty : results.score? group n = none → results.score? previous n = none → b.height = 0.0

theorem standsFor_bar {results : Results} {previous group : String} {before scores : Scores}
    (hprevious : results.groups.lookup previous = some before)
    (hgroup : results.groups.lookup group = some scores) (n : String) :
    (bar scores before n).StandsFor results previous group n := by
  have hscore : results.score? group n = scores.score? n := by
    rw [Results.score?, hgroup]
    rfl
  have hbefore : results.score? previous n = before.score? n := by
    rw [Results.score?, hprevious]
    rfl
  refine ⟨name_bar scores before n, hscore ▸ shows_bar scores before n, ?_, ?_⟩
  · intro hnone x hx
    rw [hscore] at hnone
    rw [hbefore] at hx
    simp [bar, hnone, hx]
  · intro hnone hnone'
    rw [hscore] at hnone
    rw [hbefore] at hnone'
    simp [bar, hnone, hnone']

/-- the chart has the groups of the set in display order, and in each a bar for each name that stands for the group with
the one before it in the circle of groups -/
structure BackFilled (c : Chart) (results : Results) : Prop where
  names : c.names = results.names
  groups : c.series.map (·.group) = results.shown
  bars : ∀ s ∈ c.series, s.bars.map (·.name) = results.names
  standsFor : ∀ i j g n, results.shown[i]? = some g → results.names[j]? = some n →
    ∃ previous b, results.shown[(i + results.shown.length - 1) % results.shown.length]? = some previous ∧
      c.barAt? i j = some (g, b) ∧ b.StandsFor results previous g n

section BackFilled

variable {c : Chart} {results : Results} {theme : Theme} {limit : Option Float}

theorem exists_build_of_known (hknown : ∀ g ∈ Ordered.keys results.groups, g ∈ Group.displayOrder) :
    ∃ chart, build results theme limit = .ok chart :=
  exists_build fun g hg => Group.rank?_ne_none (hknown g.1 (List.mem_map_of_mem hg))

theorem backFilled_of_build (hbuild : build results theme limit = .ok c) : c.BackFilled results := by
  obtain ⟨groups, hgroups, hnames, hseries⟩ := build_eq_ok hbuild
  have hshown := Results.map_ordered hgroups
  have hlength : results.shown.length = groups.length := by rw [← hshown, List.length_map]
  have hget : ∀ p ∈ groups, results.groups.lookup p.1 = some p.2 := fun p hp =>
    results.sorted.lookup_eq_some.2 ((Results.perm_of_ordered hgroups).mem_iff.1 hp)
  refine ⟨hnames, ?_, fun s hs => ?_, fun i j g n hg hn => ?_⟩
  · rw [map_group_of_draws hseries, hshown]
  · obtain ⟨g, -, previous, hdraws⟩ := exists_draws hbuild hs
    exact hdraws.names_bars
  · rw [← hshown, List.getElem?_map] at hg
    obtain ⟨g, hgroup, rfl⟩ := Option.map_eq_some_iff.1 hg
    obtain ⟨p, hp, hprevious⟩ := getElem?_withPrevious hgroup
    obtain ⟨s, hs, hdraws⟩ : ∃ s, c.series[i]? = some s ∧ Draws results.names p.2 g s := by
      obtain ⟨hi, hpair⟩ := List.getElem?_eq_some_iff.1 hprevious
      have hdraws := hseries.get hi (hseries.length_eq ▸ hi)
      rw [List.get_eq_getElem, hpair] at hdraws
      exact ⟨_, List.getElem?_eq_getElem _, hdraws⟩
    refine ⟨p.1, bar g.2 p.2 n, ?_, ?_,
      standsFor_bar (hget p (List.mem_of_getElem? hp)) (hget g (List.mem_of_getElem? hgroup)) n⟩
    · rw [hlength, ← hshown, List.getElem?_map, hp]
      rfl
    · refine barAt?_eq_some.2 ⟨s, hs, ?_, hdraws.group⟩
      rw [hdraws.bars, List.getElem?_map, hn]
      rfl

/-- every bar of the chart stands for a group and a name that are shown -/
theorem BackFilled.standsFor_of_mem (h : c.BackFilled results) {s : Series} (hs : s ∈ c.series) {b : Bar}
    (hb : b ∈ s.bars) :
    ∃ i previous, results.shown[i]? = some s.group ∧
      results.shown[(i + results.shown.length - 1) % results.shown.length]? = some previous ∧
      b.name ∈ results.names ∧ b.StandsFor results previous s.group b.name := by
  obtain ⟨i, hi⟩ := List.mem_iff_getElem?.1 hs
  obtain ⟨j, hj⟩ := List.mem_iff_getElem?.1 hb
  have hgroup : results.shown[i]? = some s.group := by rw [← h.groups, List.getElem?_map, hi]; rfl
  have hname : results.names[j]? = some b.name := by rw [← h.bars s hs, List.getElem?_map, hj]; rfl
  obtain ⟨previous, b', hprevious, hbar, hstands⟩ := h.standsFor i j s.group b.name hgroup hname
  obtain rfl : b = b' := by
    have hbar' : c.barAt? i j = some (s.group, b) := barAt?_eq_some.2 ⟨s, hi, hj, rfl⟩
    simpa using hbar'.symm.trans hbar
  exact ⟨i, previous, hgroup, hprevious, List.mem_of_getElem? hname, hstands⟩

theorem Bar.Shows.missing_iff {b : Bar} {score : Option Float} (h : b.Shows score) :
    b.missing = true ↔ score = none := by
  rw [← Bool.not_eq_false, h.1, ← Option.ne_none_iff_exists', not_not]

theorem BackFilled.anyMissing_iff (h : c.BackFilled results) :
    c.anyMissing = true ↔ ∃ g ∈ results.shown, ∃ n ∈ results.names, results.score? g n = none := by
  simp only [anyMissing, List.any_eq_true]
  constructor
  · rintro ⟨s, hs, b, hb, hmissing⟩
    obtain ⟨i, previous, hgroup, -, hname, hstands⟩ := h.standsFor_of_mem hs hb
    exact ⟨s.group, List.mem_of_getElem? hgroup, b.name, hname, hstands.shows.missing_iff.1 hmissing⟩
  · rintro ⟨g, hg, n, hn, hnone⟩
    obtain ⟨i, hi⟩ := List.mem_iff_getElem?.1 hg
    obtain ⟨j, hj⟩ := List.mem_iff_getElem?.1 hn
    obtain ⟨previous, b, -, hbar, hstands⟩ := h.standsFor i j g n hi hj
    obtain ⟨s, hs, hb, -⟩ := barAt?_eq_some.1 hbar
    exact ⟨s, List.mem_of_getElem? hs, b, List.mem_of_getElem? hb, hstands.shows.missing_iff.2 hnone⟩

/-- a lone group comes before itself -/
theorem BackFilled.height_of_lone (h : c.BackFilled results) {g : String} (hlone : results.shown = [g]) {s : Series}
    (hs : s ∈ c.series) {b : Bar} (hb : b ∈ s.bars) (hmissing : b.missing = true) : b.height = 0.0 := by
  obtain ⟨i, previous, hgroup, hprevious, -, hstands⟩ := h.standsFor_of_mem hs hb
  rw [hlone] at hgroup hprevious
  obtain rfl : previous = g := List.mem_singleton.1 (List.mem_of_getElem? hprevious)
  rw [List.mem_singleton.1 (List.mem_of_getElem? hgroup)] at hstands
  have hnone := hstands.shows.missing_iff.1 hmissing
  exact hstands.empty hnone hnone

end BackFilled

/-- **Missing bars stand in with the group before.** A set over known groups gives a chart where a bar without a
measurement has the number that the set holds for the group before, the last one coming before the first, or no height.
A lone group lends itself nothing, and a chart has missing bars just if a group that is shown has no number for a name
that is shown. -/
theorem build_fills_from_group_before {results : Results}
    (hknown : ∀ g ∈ Ordered.keys results.groups, g ∈ Group.displayOrder) (theme : Theme) (limit : Option Float) :
    ∃ chart, build results theme limit = .ok chart ∧ chart.BackFilled results ∧
      (∀ g, results.shown = [g] → ∀ s ∈ chart.series, ∀ b ∈ s.bars, b.missing = true → b.height = 0.0) ∧
      (chart.anyMissing = true ↔ ∃ g ∈ results.shown, ∃ n ∈ results.names, results.score? g n = none) := by
  obtain ⟨chart, hchart⟩ : ∃ chart, build results theme limit = .ok chart := exists_build_of_known hknown
  have hfilled := backFilled_of_build hchart
  exact ⟨chart, hchart, hfilled, fun g hlone s hs b hb => hfilled.height_of_lone hlone hs hb, hfilled.anyMissing_iff⟩

/-- a missing score in the group that is shown first, and in each of the others a name that is not there -/
def gappedResults : Results where
  groups := [("TestBaseline", [("a", none), ("b", some 2.0)]), ("TestPush", [("a", some 7.5)]),
    ("TestStream", [("b", some 0.5)])]

/-- the first group borrows from the last and passes nothing on -/
theorem gapped_results_fill_from_group_before :
    (∀ g ∈ Ordered.keys gappedResults.groups, g ∈ Group.displayOrder) ∧
      gappedResults.shown = ["TestBaseline", "TestStream", "TestPush"] ∧
      ∃ chart, build gappedResults .standard none = .ok chart ∧ chart.anyMissing = true ∧
        (∃ b, chart.barAt? 0 0 = some ("TestBaseline", b) ∧ b.missing = true ∧ b.height = 7.5) ∧
        (∃ b, chart.barAt? 1 0 = some ("TestStream", b) ∧ b.missing = true ∧ b.height = 0.0) ∧
        ∃ b, chart.barAt? 2 1 = some ("TestPush", b) ∧ b.missing = true ∧ b.height = 0.5 := by
  have hknown : ∀ g ∈ Ordered.keys gappedResults.groups, g ∈ Group.displayOrder := by decide +kernel
  have hshown : gappedResults.shown = ["TestBaseline", "TestStream", "TestPush"] := by decide +kernel
  obtain ⟨chart, hchart, hfilled, -, hany⟩ := build_fills_from_group_before hknown .standard none
  have hbars := hfilled.standsFor
  rw [hshown] at hbars hany
  refine ⟨hknown, hshown, chart, hchart, ?_, ?_, ?_, ?_⟩
  · exact hany.2 ⟨"TestStream", by decide, "a", by decide +kernel, rfl⟩
  · obtain ⟨previous, b, hprevious, hb, hstands⟩ := hbars 0 0 "TestBaseline" "a" rfl rfl
    obtain rfl : "TestPush" = previous := Option.some.inj hprevious
    exact ⟨b, hb, hstands.shows.missing_iff.2 rfl, hstands.borrowed rfl 7.5 rfl⟩
  · obtain ⟨previous, b, hprevious, hb, hstands⟩ := hbars 1 0 "TestStream" "a" rfl rfl
    obtain rfl : "TestBaseline" = previous := Option.some.inj hprevious
    exact ⟨b, hb, hstands.shows.missing_iff.2 rfl, hstands.empty rfl rfl⟩
  · obtain ⟨previous, b, hprevious, hb, hstands⟩ := hbars 2 1 "TestPush" "b" rfl rfl
    obtain rfl : "TestStream" = previous := Option.some.inj hprevious
    exact ⟨b, hb, hstands.shows.missing_iff.2 rfl, hstands.borrowed rfl 0.5 rfl⟩

end Chart

end Benchwork
