/-
Measurements and bars.

The set that records are gathered to has for every group and name the score that was inserted last (`get?_ofRecords`), and
lists of records with the same last scores give the same set (`ofRecords_congr`). A chart is a grid: it has a row of bars
for each group and in each row one bar for each name, so a bar is told by its group and its name (`Grid.place_unique`).

The names of a chart are those of one group. When all groups have the same names nothing is left out on that account:
every key of the set has exactly one bar, and every bar shows the last score of its key
(`build_draws_each_measurement_once`).
-/
import Benchwork.Proofs.Chart.Series

namespace Benchwork

open Benchwork.Benchmark

/-! ## Sets of records -/

namespace Benchmark

/-- the score inserted last for a name in a group; `some none` is a missing measurement -/
def lastScore (rs : List Record) (group name : String) : Option (Option Float) :=
  (rs.filterMap (Record.scoreFor group name)).getLast?

theorem exists_of_lastScore {rs : List Record} {g n : String} (h : lastScore rs g n ≠ none) : ∃ r ∈ rs, r.group = g := by
  obtain ⟨score, hscore⟩ := Option.ne_none_iff_exists'.1 h
  obtain ⟨r, hr, hfor⟩ := List.mem_filterMap.1 (List.mem_of_getLast? hscore)
  refine ⟨r, hr, ?_⟩
  by_contra hne
  simp [Record.scoreFor, hne] at hfor

theorem Group.rank?_ne_none {g : String} (h : g ∈ displayOrder) : rank? g ≠ none := by
  intro hnone
  have hdiffer := List.findIdx?_eq_none_iff.1 hnone g h
  simp at hdiffer

namespace Results

def ofRecords (rs : List Record) : Results := rs.foldl insert .empty

theorem get?_ofRecords (rs : List Record) (g n : String) : (ofRecords rs).get? g n = lastScore rs g n := by
  rw [ofRecords, get?_foldl_insert, get?_empty, Option.or_none]
  rfl

theorem wellFormed_ofRecords (rs : List Record) : (ofRecords rs).WellFormed := wellFormed_empty.foldl_insert rs

/-- only the last scores count -/
theorem ofRecords_congr {rs rs' : List Record} (h : ∀ g n, lastScore rs' g n = lastScore rs g n) :
    ofRecords rs' = ofRecords rs := by
  refine (wellFormed_ofRecords rs').ext (wellFormed_ofRecords rs) ?_ fun g n => ?_
  · rw [ofRecords, ofRecords, vm_foldl_insert, vm_foldl_insert]
  · rw [get?_ofRecords, get?_ofRecords, h]

def SharesNames (s : Results) : Prop :=
  ∀ g ∈ s.groups, ∀ g' ∈ s.groups, ∀ n, n ∈ Ordered.keys g.2 ↔ n ∈ Ordered.keys g'.2

/-- the names shown are those of a group that is first, so they are in order -/
theorem nodup_names (s : Results) : s.names.Nodup := by
  unfold names
  cases hgroups : s.groups with
  | nil => exact List.nodup_nil
  | cons g rest => exact (s.sorted_scores g (hgroups ▸ List.mem_cons_self)).nodup_keys

theorem SharesNames.mem_names {s : Results} (h : s.SharesNames) {g : String × Scores} (hg : g ∈ s.groups) {n : String} :
    n ∈ s.names ↔ n ∈ Ordered.keys g.2 := by
  unfold names
  cases hgroups : s.groups with
  | nil => rw [hgroups] at hg; cases hg
  | cons g₀ rest => exact h g₀ (hgroups ▸ List.mem_cons_self) g hg n

theorem get?_of_mem {s : Results} {g : String × Scores} (hg : g ∈ s.groups) (n : String) :
    s.get? g.1 n = g.2.lookup n := by
  rw [get?, s.sorted.lookup_eq_some.2 hg]
  rfl

/-- a set of known groups can be put in display order -/
theorem exists_ordered {s : Results} (h : ∀ g ∈ s.groups, Group.rank? g.1 ≠ none) : ∃ groups, s.ordered = .ok groups := by
  cases hordered : s.ordered with
  | ok groups => exact ⟨groups, rfl⟩
  | error e =>
    obtain ⟨g, hg, hnone, -⟩ := ordered_eq_error hordered
    exact absurd hnone (h g hg)

theorem known_ofRecords {rs : List Record} (h : ∀ r ∈ rs, r.group ∈ Group.displayOrder) :
    ∀ g ∈ (ofRecords rs).groups, Group.rank? g.1 ≠ none := by
  intro g hg
  obtain ⟨n, hn⟩ := (wellFormed_ofRecords rs).mem_keys.1 (List.mem_map_of_mem hg)
  rw [get?_ofRecords] at hn
  obtain ⟨r, hr, hgroup⟩ := exists_of_lastScore hn
  exact hgroup ▸ Group.rank?_ne_none (h r hr)

end Results

end Benchmark

namespace Chart

/-! ## Places of bars -/

/-- the bar with number `j` of the series with number `i`, and the group of that series -/
def barAt? (c : Chart) (i j : Nat) : Option (String × Bar) :=
  c.series[i]?.bind fun s => s.bars[j]?.map fun b => (s.group, b)

/-- a series for each group, and in each a bar for each name -/
structure Grid (c : Chart) (groups : List String) : Prop where
  series : (c.series.map (·.group)).Perm groups
  bars : ∀ s ∈ c.series, s.bars.map (·.name) = c.names
  groups_nodup : groups.Nodup
  names_nodup : c.names.Nodup

variable {c : Chart} {groups : List String} {g : String} {b : Bar} {i j : Nat}

theorem barAt?_eq_some : c.barAt? i j = some (g, b) ↔ ∃ s, c.series[i]? = some s ∧ s.bars[j]? = some b ∧ s.group = g := by
  simp only [barAt?, Option.bind_eq_some_iff, Option.map_eq_some_iff, Prod.mk.injEq]
  constructor
  · rintro ⟨s, hs, b', hb, hg, rfl⟩
    exact ⟨s, hs, hb, hg⟩
  · rintro ⟨s, hs, hb, hg⟩
    exact ⟨s, hs, b, hb, hg, rfl⟩

theorem Grid.name_at (h : c.Grid groups) (hb : c.barAt? i j = some (g, b)) : c.names[j]? = some b.name := by
  obtain ⟨s, hs, hbar, -⟩ := barAt?_eq_some.1 hb
  rw [← h.bars s (List.mem_of_getElem? hs), List.getElem?_map, hbar]
  rfl

theorem group_at (hb : c.barAt? i j = some (g, b)) : (c.series.map (·.group))[i]? = some g := by
  obtain ⟨s, hs, -, hg⟩ := barAt?_eq_some.1 hb
  rw [List.getElem?_map, hs, Option.map_some, hg]

theorem Grid.exists_place (h : c.Grid groups) {n : String} (hg : g ∈ groups) (hn : n ∈ c.names) :
    ∃ i j b, c.barAt? i j = some (g, b) ∧ b.name = n := by
  obtain ⟨s, hs, hgroup⟩ := List.mem_map.1 (h.series.mem_iff.2 hg)
  rw [← h.bars s hs] at hn
  obtain ⟨b, hb, hname⟩ := List.mem_map.1 hn
  obtain ⟨i, hi⟩ := List.mem_iff_getElem?.1 hs
  obtain ⟨j, hj⟩ := List.mem_iff_getElem?.1 hb
  exact ⟨i, j, b, barAt?_eq_some.2 ⟨s, hi, hj, hgroup⟩, hname⟩

/-- a bar is told by its group and its name -/
theorem Grid.place_unique (h : c.Grid groups) {i' j' : Nat} {b' : Bar} (hb : c.barAt? i j = some (g, b))
    (hb' : c.barAt? i' j' = some (g, b')) (hname : b.name = b'.name) : i = i' ∧ j = j' := by
  have hi : (c.series.map (·.group))[i]? = (c.series.map (·.group))[i']? := (group_at hb).trans (group_at hb').symm
  have hj : c.names[j]? = c.names[j']? := by rw [h.name_at hb, h.name_at hb', hname]
  have hseries : (c.series.map (·.group)).Nodup := h.series.nodup_iff.2 h.groups_nodup
  exact ⟨(List.getElem?_inj (List.getElem?_eq_some_iff.1 (group_at hb)).1 hseries).1 hi,
    (List.getElem?_inj (List.getElem?_eq_some_iff.1 (h.name_at hb)).1 h.names_nodup).1 hj⟩

/-! ## Bars of a chart that is built -/

/-- the bar shows a score: it is marked as missing just if there is none, and has its height if there is one -/
def Bar.Shows (b : Bar) (score : Option Float) : Prop :=
  (b.missing = false ↔ ∃ x, score = some x) ∧ ∀ x, score = some x → b.height = x

theorem shows_bar (scores previous : Scores) (n : String) : (bar scores previous n).Shows (scores.score? n) := by
  unfold bar
  cases scores.score? n with
  | none => simp [Bar.Shows]
  | some x => simp [Bar.Shows]

section Build

variable {results : Results} {theme : Theme} {limit : Option Float}

theorem exists_build (h : ∀ g ∈ results.groups, Group.rank? g.1 ≠ none) :
    ∃ chart, build results theme limit = .ok chart := by
  obtain ⟨groups, hgroups⟩ := Results.exists_ordered h
  rw [build, hgroups]
  exact ⟨_, rfl⟩

/-- every series is drawn from a group of the set -/
theorem exists_draws (hbuild : build results theme limit = .ok c) {s : Series} (hs : s ∈ c.series) :
    ∃ g ∈ results.groups, ∃ previous, Draws results.names previous g s := by
  obtain ⟨groups, hgroups, -, hseries⟩ := build_eq_ok hbuild
  obtain ⟨i, hi, rfl⟩ := List.mem_iff_getElem.1 hs
  have hlen : i < (withPrevious ((groups.getLast?.map (·.2)).getD []) groups).length := by rwa [hseries.length_eq]
  have hmem := List.mem_map_of_mem (f := (·.2)) (List.getElem_mem hlen)
  rw [map_snd_withPrevious] at hmem
  exact ⟨_, (Results.perm_of_ordered hgroups).mem_iff.1 hmem, _, hseries.get hlen hi⟩

/-- a chart is a grid of the groups of the set -/
theorem grid_of_build (hbuild : build results theme limit = .ok c) :
    c.Grid (Ordered.keys results.groups) := by
  obtain ⟨groups, hgroups, hnames, hseries⟩ := build_eq_ok hbuild
  refine ⟨?_, fun s hs => ?_, results.sorted.nodup_keys, hnames ▸ results.nodup_names⟩
  · rw [map_group_of_draws hseries]
    exact (Results.perm_of_ordered hgroups).map _
  · obtain ⟨g, -, previous, hdraws⟩ := exists_draws hbuild hs
    rw [hnames, hdraws.names_bars]

/-- a bar belongs to a group and a name that are shown, and shows their score -/
theorem bar_of_build (hbuild : build results theme limit = .ok c) (hb : c.barAt? i j = some (g, b)) :
    ∃ scores, (g, scores) ∈ results.groups ∧ b.name ∈ results.names ∧ b.Shows (results.get? g b.name).join := by
  obtain ⟨s, hs, hbar, rfl⟩ := barAt?_eq_some.1 hb
  obtain ⟨g, hg, previous, hdraws⟩ := exists_draws hbuild (List.mem_of_getElem? hs)
  rw [hdraws.bars, List.getElem?_map] at hbar
  obtain ⟨n, hn, rfl⟩ := Option.map_eq_some_iff.1 hbar
  refine ⟨g.2, by rw [hdraws.group]; exact hg, ?_, ?_⟩
  · rw [name_bar]
    exact List.mem_of_getElem? hn
  · rw [name_bar, hdraws.group, Results.get?_of_mem hg]
    exact shows_bar g.2 previous n

end Build

/-! ## Every measurement once -/

/-- the chart shows the last scores of records: a series for each group and a bar for each name in it, one bar for each
key, and no bar without a key -/
structure Faithful (c : Chart) (rs : List Record) : Prop where
  grid : c.Grid (Ordered.keys (Results.ofRecords rs).groups)
  once : ∀ g n, lastScore rs g n ≠ none → ∃! p : Nat × Nat, ∃ b, c.barAt? p.1 p.2 = some (g, b) ∧ b.name = n
  shows : ∀ i j g b, c.barAt? i j = some (g, b) → ∃ score, lastScore rs g b.name = some score ∧ b.Shows score

theorem faithful_of_build {rs : List Record} {theme : Theme} {limit : Option Float}
    (hshared : (Results.ofRecords rs).SharesNames) (hbuild : build (Results.ofRecords rs) theme limit = .ok c) :
    c.Faithful rs := by
  have hformed := Results.wellFormed_ofRecords rs
  have hgrid := grid_of_build hbuild
  obtain ⟨-, -, hnames, -⟩ := build_eq_ok hbuild
  refine ⟨hgrid, fun g n hscore => ?_, fun i j g b hb => ?_⟩
  · -- the key is in the set, so its group has a series and its name, which all groups have, is shown
    rw [← Results.get?_ofRecords] at hscore
    have hg : g ∈ Ordered.keys (Results.ofRecords rs).groups := hformed.mem_keys.2 ⟨n, hscore⟩
    obtain ⟨⟨_, scores⟩, hmem, rfl⟩ := List.mem_map.1 hg
    have hn : n ∈ c.names := by
      rw [hnames, hshared.mem_names hmem, Ordered.mem_keys, ← Results.get?_of_mem hmem]
      exact hscore
    obtain ⟨i, j, b, hb, hname⟩ := hgrid.exists_place hg hn
    refine ⟨(i, j), ⟨b, hb, hname⟩, ?_⟩
    rintro ⟨i', j'⟩ ⟨b', hb', hname'⟩
    obtain ⟨rfl, rfl⟩ := hgrid.place_unique hb' hb (hname'.trans hname.symm)
    rfl
  · obtain ⟨scores, hmem, hname, hshows⟩ := bar_of_build hbuild hb
    rw [hshared.mem_names hmem, Ordered.mem_keys, ← Results.get?_of_mem hmem] at hname
    obtain ⟨score, hscore⟩ := Option.ne_none_iff_exists'.1 hname
    rw [hscore] at hshows
    exact ⟨score, by rw [← Results.get?_ofRecords]; exact hscore, hshows⟩

/-- **Every measurement is drawn once.** Records over known groups that share their names give a chart with every
measurement in it once; any other list of records with the same last scores, such as a reordering, gives the same
chart. -/
theorem build_draws_each_measurement_once {rs : List Record} (hknown : ∀ r ∈ rs, r.group ∈ Group.displayOrder)
    (hshared : (Results.ofRecords rs).SharesNames) (theme : Theme) (limit : Option Float) :
    ∃ chart, build (Results.ofRecords rs) theme limit = .ok chart ∧ chart.Faithful rs ∧
      ∀ rs', (∀ g n, lastScore rs' g n = lastScore rs g n) → build (Results.ofRecords rs') theme limit = .ok chart := by
  obtain ⟨chart, hchart⟩ : ∃ chart, build (Results.ofRecords rs) theme limit = .ok chart :=
    exists_build (Results.known_ofRecords hknown)
  refine ⟨chart, hchart, faithful_of_build hshared hchart, fun rs' hsame => ?_⟩
  rw [Results.ofRecords_congr hsame]
  exact hchart

/-- two groups with the same names; one score is missing and another one is inserted twice -/
def revisedRecords : List Record :=
  [⟨"TestStream", "a", some 1.0⟩, ⟨"TestStreamOpt", "a", none⟩, ⟨"TestStreamOpt", "b", some 3.0⟩,
   ⟨"TestStream", "b", some 2.0⟩, ⟨"TestStream", "a", some 4.0⟩]

theorem sharesNames_revisedRecords : (Results.ofRecords revisedRecords).SharesNames := by
  have hkeys : ∀ g ∈ (Results.ofRecords revisedRecords).groups, Ordered.keys g.2 = ["a", "b"] := by decide +kernel
  intro g hg g' hg' n
  rw [hkeys g hg, hkeys g' hg']

/-- the same records, those of one group after those of the other -/
def regroupedRecords : List Record :=
  [⟨"TestStreamOpt", "a", none⟩, ⟨"TestStreamOpt", "b", some 3.0⟩, ⟨"TestStream", "a", some 1.0⟩,
   ⟨"TestStream", "b", some 2.0⟩, ⟨"TestStream", "a", some 4.0⟩]

theorem lastScore_regroupedRecords (g n : String) : lastScore regroupedRecords g n = lastScore revisedRecords g n := by
  by_cases hg : g = "TestStream"
  · subst hg
    rfl
  · simp [lastScore, regroupedRecords, revisedRecords, Record.scoreFor, Ne.symm hg]

/-- the later score of the two is shown, and once -/
theorem revised_measurement_drawn_once :
    (∀ r ∈ revisedRecords, r.group ∈ Group.displayOrder) ∧ (Results.ofRecords revisedRecords).SharesNames ∧
      ∃ chart, build (Results.ofRecords revisedRecords) .standard none = .ok chart ∧
        build (Results.ofRecords regroupedRecords) .standard none = .ok chart ∧
        ∃! p : Nat × Nat, ∃ b, chart.barAt? p.1 p.2 = some ("TestStream", b) ∧ b.name = "a" ∧ b.Shows (some 4.0) := by
  have hknown : ∀ r ∈ revisedRecords, r.group ∈ Group.displayOrder := by decide +kernel
  obtain ⟨chart, hchart, hfaithful, hsame⟩ :=
    build_draws_each_measurement_once hknown sharesNames_revisedRecords .standard none
  have hlast : lastScore revisedRecords "TestStream" "a" = some (some 4.0) := by
    simp [lastScore, revisedRecords, Record.scoreFor]
  obtain ⟨p, ⟨b, hb, hname⟩, hunique⟩ := hfaithful.once "TestStream" "a" (by simp [hlast])
  obtain ⟨score, hscore, hshows⟩ := hfaithful.shows p.1 p.2 _ b hb
  rw [hname, hlast] at hscore
  obtain rfl := Option.some.inj hscore
  refine ⟨hknown, sharesNames_revisedRecords, chart, hchart, hsame _ lastScore_regroupedRecords, p,
    ⟨b, hb, hname, hshows⟩, ?_⟩
  rintro p' ⟨b', hb', hname', -⟩
  exact hunique p' ⟨b', hb', hname'⟩

end Chart

end Benchwork
