/-
The colors of series.

An optimized variant follows its base if that is in the chart: it has the base's color, darkened. All other series lead;
they take the colors of the palette in turn, an optimized one darkened too. `lookOf` says so in closed form, for a list of
groups in which no variant stands before its base (`Arranged`), and the series of a chart look like this, since their
colors are found by looking back at the series that are done (`map_look_seriesFrom`).

The display order is arranged in this way, and a base comes before its variant in byte order, too. So a variant whose base
is there can be left out: the names stay the same, and so does the look of all other series
(`variants_leave_other_series_alone`).
-/
import Benchwork.Proofs.Chart.StandIns

namespace Benchwork

open Benchwork.Benchmark

namespace Chart

/-! ## Looks -/

structure Look where
  group : String
  label : String
  color : Color
  hatched : Bool

def Series.look (s : Series) : Look := ⟨s.group, s.label, s.color, s.hatched⟩

/-- the group is an optimized variant, and its base is among the groups -/
def follows (groups : List String) (g : String) : Bool := Group.isOptimized g && Group.base g ∈ groups

/-- the groups that take a color of the palette -/
def leaders (groups : List String) : List String := groups.filter fun g => !follows groups g

def ownColor (theme : Theme) (g : String) (place : Nat) : Color :=
  if Group.isOptimized g then (theme.barColor place).darken optimizedShade else theme.barColor place

def colorOf (theme : Theme) (groups : List String) (g : String) : Color :=
  if follows groups g then
    (ownColor theme (Group.base g) ((leaders groups).idxOf (Group.base g))).darken optimizedShade
  else ownColor theme g ((leaders groups).idxOf g)

def lookOf (theme : Theme) (groups : List String) (g : String) : Look :=
  ⟨g, Group.label g, colorOf theme groups g, Group.isOptimized g⟩

/-- every group once, no base is a variant itself, and no variant stands before its base -/
structure Arranged (groups : List String) : Prop where
  nodup : groups.Nodup
  plain : ∀ g ∈ groups, Group.isOptimized (Group.base g) = false
  after : groups.Pairwise fun g g' => Group.isOptimized g = true → Group.base g ≠ g'

theorem arranged_displayOrder : Arranged Group.displayOrder :=
  ⟨by decide +kernel, by decide +kernel, by decide +kernel⟩

theorem Arranged.sublist {groups groups' : List String} (h : Arranged groups) (hsub : groups'.Sublist groups) :
    Arranged groups' :=
  ⟨h.nodup.sublist hsub, fun g hg => h.plain g (hsub.subset hg), h.after.sublist hsub⟩

theorem follows_eq_true {groups : List String} {g : String} :
    follows groups g = true ↔ Group.isOptimized g = true ∧ Group.base g ∈ groups := by
  simp [follows]

theorem follows_of_plain {groups : List String} {g : String} (h : Group.isOptimized g = false) :
    follows groups g = false := by
  simp [follows, h]

/-- a series among those that look like the groups in `part` -/
theorem look_of_mem {theme : Theme} {groups part : List String} {series : List Series}
    (h : series.map Series.look = part.map (lookOf theme groups)) {s : Series} (hs : s ∈ series) :
    s.group ∈ part ∧ s.color = colorOf theme groups s.group := by
  have hmem : s.look ∈ part.map (lookOf theme groups) := h ▸ List.mem_map_of_mem hs
  obtain ⟨g, hg, hlook⟩ := List.mem_map.1 hmem
  obtain rfl : g = s.group := congrArg Look.group hlook
  exact ⟨hg, (congrArg Look.color hlook).symm⟩

section Step

variable {theme : Theme} {before after : List String} {g : String} {done : List Series}

/-- a variant comes after its base -/
theorem Arranged.base_mem (h : Arranged (before ++ g :: after)) (hg : follows (before ++ g :: after) g = true) :
    Group.base g ∈ before := by
  obtain ⟨hoptimized, hbase⟩ := follows_eq_true.1 hg
  rcases List.mem_append.1 hbase with hbefore | hrest
  · exact hbefore
  rcases List.mem_cons.1 hrest with hself | hafter
  · have hplain := h.plain g (List.mem_append_right before List.mem_cons_self)
    rw [hself, hoptimized] at hplain
    cases hplain
  · have hpairs := (List.pairwise_append.1 h.after).2.1
    exact absurd rfl ((List.pairwise_cons.1 hpairs).1 _ hafter hoptimized)

/-- the place of a leader is the number of leaders before it -/
theorem Arranged.idxOf_leaders (h : Arranged (before ++ g :: after))
    (hg : follows (before ++ g :: after) g = false) :
    (leaders (before ++ g :: after)).idxOf g =
      (before.filter fun g' => !follows (before ++ g :: after) g').length := by
  have hnew : g ∉ before := fun hmem =>
    (List.nodup_append.1 h.nodup).2.2 g hmem g List.mem_cons_self rfl
  have hnew' : g ∉ before.filter fun g' => !follows (before ++ g :: after) g' := fun hmem =>
    hnew (List.mem_of_mem_filter hmem)
  rw [leaders, List.filter_append, List.idxOf_append_of_notMem hnew', List.filter_cons_of_pos (by simp [hg]),
    List.idxOf_cons_self, Nat.add_zero]

/-- a series that is done is found by its group -/
theorem find?_done {groups : List String} (hdone : done.map Series.look = before.map (lookOf theme groups))
    (hg : g ∈ before) :
    ∃ s, done.find? (fun s => s.group = g) = some s ∧ s.color = colorOf theme groups g := by
  have hlook : lookOf theme groups g ∈ done.map Series.look := hdone ▸ List.mem_map_of_mem hg
  obtain ⟨s₀, hs₀, heq⟩ := List.mem_map.1 hlook
  have hfound : (done.find? fun s => s.group = g).isSome = true := by
    rw [List.find?_isSome]
    exact ⟨s₀, hs₀, decide_eq_true (congrArg Look.group heq)⟩
  obtain ⟨s, hs⟩ := Option.isSome_iff_exists.1 hfound
  have hgroup : s.group = g := by simpa using List.find?_some hs
  refine ⟨s, hs, ?_⟩
  rw [(look_of_mem hdone (List.mem_of_find?_eq_some hs)).2, hgroup]

/-- nothing is found for a group that follows none of those done -/
theorem find?_done_eq_none {groups : List String} (hdone : done.map Series.look = before.map (lookOf theme groups))
    (hbefore : before ⊆ groups) (hg : follows groups g = false) :
    done.find? (fun s => Group.isOptimized g && s.group = Group.base g) = none := by
  rw [List.find?_eq_none]
  intro s hs hfound
  obtain ⟨hoptimized, hbase⟩ : Group.isOptimized g = true ∧ s.group = Group.base g := by simpa using hfound
  have hmem : Group.base g ∈ groups := hbase ▸ hbefore (look_of_mem hdone hs).1
  rw [follows_eq_true.2 ⟨hoptimized, hmem⟩] at hg
  cases hg

/-- The next series gets the color that it has in closed form, and a leader uses up a color of the palette. -/
theorem nextColor_eq (h : Arranged (before ++ g :: after))
    (hdone : done.map Series.look = before.map (lookOf theme (before ++ g :: after))) :
    nextColor theme done (before.filter fun g' => !follows (before ++ g :: after) g').length g =
      (colorOf theme (before ++ g :: after) g,
        ((before ++ [g]).filter fun g' => !follows (before ++ g :: after) g').length) := by
  unfold nextColor
  by_cases hg : follows (before ++ g :: after) g = true
  · -- the base is done and has a color of its own
    have hoptimized := (follows_eq_true.1 hg).1
    have hplain := h.plain g (List.mem_append_right before List.mem_cons_self)
    obtain ⟨s, hs, hcolor⟩ := find?_done hdone (h.base_mem hg)
    have hbase : s.color = ownColor theme (Group.base g) ((leaders (before ++ g :: after)).idxOf (Group.base g)) := by
      rw [hcolor, colorOf, if_neg (by simp [follows_of_plain hplain])]
    simp only [hoptimized, Bool.true_and, hs]
    rw [colorOf, if_pos hg, ← hbase]
    simp [List.filter_append, hg]
  · have hlead : follows (before ++ g :: after) g = false := by simpa using hg
    have hnone := find?_done_eq_none hdone (List.subset_append_left _ _) hlead
    simp only [hnone]
    rw [colorOf, if_neg hg, h.idxOf_leaders hlead, ownColor]
    simp [List.filter_append, hlead]

end Step

/-! ## Series of a chart -/

theorem look_seriesOf (theme : Theme) (names : List String) (done : List Series) (used : Nat) (previous : Scores)
    (g : String × Scores) :
    (seriesOf theme names done used previous g).look =
      ⟨g.1, Group.label g.1, (nextColor theme done used g.1).1, Group.isOptimized g.1⟩ :=
  rfl

theorem map_look_seriesFrom {theme : Theme} {names before : List String} {done : List Series} {previous : Scores}
    {groups : List (String × Scores)} {all : List String} (hall : before ++ groups.map (·.1) = all) (h : Arranged all)
    (hdone : done.map Series.look = before.map (lookOf theme all)) :
    (seriesFrom theme names done (before.filter fun g => !follows all g).length previous groups).map Series.look =
      all.map (lookOf theme all) := by
  -- those done look as in closed form, and the leaders among them have used up the palette so far
  induction groups generalizing before done previous with
  | nil =>
    rw [seriesFrom, hdone, ← hall, List.map_nil, List.append_nil]
  | cons g groups ih =>
    rw [List.map_cons] at hall
    have hnext : nextColor theme done (before.filter fun g' => !follows all g').length g.1 =
        (colorOf theme all g.1, ((before ++ [g.1]).filter fun g' => !follows all g').length) := by
      subst hall
      exact nextColor_eq h hdone
    rw [seriesFrom_cons, hnext]
    apply ih
    · rw [List.append_assoc]
      exact hall
    · rw [List.map_append, List.map_append, hdone, List.map_singleton, List.map_singleton, look_seriesOf, hnext]
      rfl

theorem map_look_build {results : Results} {theme : Theme} {limit : Option Float} {c : Chart}
    (hbuild : build results theme limit = .ok c) :
    c.series.map Series.look = results.shown.map (lookOf theme results.shown) := by
  obtain ⟨groups, hgroups, -, hseries, -⟩ := eq_of_build hbuild
  have hshown : [] ++ groups.map (·.1) = results.shown := Results.map_ordered hgroups
  rw [hseries]
  exact map_look_seriesFrom hshown (arranged_displayOrder.sublist List.filter_sublist) rfl

section Series

variable {theme : Theme} {groups : List String} {c : Chart}

theorem map_group_of_looks (h : c.series.map Series.look = groups.map (lookOf theme groups)) :
    c.series.map (·.group) = groups := by
  have hgroups := congrArg (List.map Look.group) h
  rw [List.map_map, List.map_map] at hgroups
  exact hgroups.trans (List.map_id groups)

def leading (c : Chart) : List Series := c.series.filter fun s => !follows (c.series.map (·.group)) s.group

/-- the second color has every channel of the first less by 0.2, or zero where that is not above zero -/
structure Color.Darkened (c d : Color) : Prop where
  red : d.red = if c.red - 0.2 > 0.0 then c.red - 0.2 else 0.0
  green : d.green = if c.green - 0.2 > 0.0 then c.green - 0.2 else 0.0
  blue : d.blue = if c.blue - 0.2 > 0.0 then c.blue - 0.2 else 0.0

theorem Color.darkened_darken (c : Color) : c.Darkened (c.darken optimizedShade) := ⟨rfl, rfl, rfl⟩

/-- a variant has the color of its base, darkened, and the other series take the palette in turn -/
structure Colored (theme : Theme) (c : Chart) : Prop where
  variants : ∀ s ∈ c.series, Group.isOptimized s.group = true → ∀ b ∈ c.series, b.group = Group.base s.group →
    b.color.Darkened s.color
  others : ∀ k s, c.leading[k]? = some s → ∃ color, theme.palette[k % theme.palette.length]? = some color ∧
    (Group.isOptimized s.group = true → color.Darkened s.color) ∧ (Group.isOptimized s.group = false → s.color = color)

theorem map_group_leading (hgroups : c.series.map (·.group) = groups) : c.leading.map (·.group) = leaders groups := by
  rw [leading, hgroups, leaders, ← hgroups, List.filter_map]
  rfl

theorem leading_at {k : Nat} {g : String} (h : (c.leading.map (·.group))[k]? = some g) :
    ∃ s, c.leading[k]? = some s ∧ s.group = g := by
  rw [List.getElem?_map] at h
  exact Option.map_eq_some_iff.1 h

theorem colored_of_looks (harranged : Arranged groups)
    (h : c.series.map Series.look = groups.map (lookOf theme groups)) : c.Colored theme := by
  have hgroups := map_group_of_looks h
  constructor
  · intro s hs hoptimized b hb hbase
    obtain ⟨hsmem, hscolor⟩ := look_of_mem h hs
    obtain ⟨hbmem, hbcolor⟩ := look_of_mem h hb
    have hfollows : follows groups s.group = true := follows_eq_true.2 ⟨hoptimized, hbase ▸ hbmem⟩
    have hplain : follows groups b.group = false := follows_of_plain (hbase ▸ harranged.plain _ hsmem)
    rw [colorOf, if_pos hfollows, ← hbase] at hscolor
    rw [colorOf, if_neg (by simp [hplain])] at hbcolor
    rw [hscolor, hbcolor]
    exact Color.darkened_darken _
  · intro k s hk
    have hleader : (leaders groups)[k]? = some s.group := by
      rw [← map_group_leading hgroups, List.getElem?_map, hk]
      rfl
    have hplace : (leaders groups).idxOf s.group = k := by
      obtain ⟨hlt, heq⟩ := List.getElem?_eq_some_iff.1 hleader
      rw [← heq]
      exact (harranged.nodup.filter _).idxOf_getElem k hlt
    obtain ⟨hs, hnot⟩ := List.mem_filter.1 (List.mem_of_getElem? hk)
    obtain ⟨-, hcolor⟩ := look_of_mem h hs
    rw [hgroups] at hnot
    rw [colorOf, if_neg (by simpa using hnot), hplace, ownColor] at hcolor
    refine ⟨theme.barColor k, List.getElem?_eq_getElem (theme.mod_palette_lt k), fun hoptimized => ?_, fun hplain => ?_⟩
    · rw [hcolor, if_pos hoptimized]
      exact Color.darkened_darken _
    · rw [hcolor, if_neg (by simp [hplain])]

end Series

/-! ## Variants left out -/

section Keep

variable {theme : Theme} {groups : List String} {keep : String → Bool}

/-- leaving out followers leaves all bases in -/
theorem follows_filter (h : Arranged groups) (hkeep : ∀ g ∈ groups, keep g = false → follows groups g = true) {g : String}
    (hg : g ∈ groups) : follows (groups.filter keep) g = follows groups g := by
  have hbase : Group.base g ∈ groups → keep (Group.base g) = true := by
    intro hmem
    by_contra hgone
    have hfollows := hkeep _ hmem (by simpa using hgone)
    rw [follows_of_plain (h.plain g hg)] at hfollows
    cases hfollows
  unfold follows
  congr 1
  simp only [List.mem_filter, decide_eq_decide]
  exact ⟨fun hmem => hmem.1, fun hmem => ⟨hmem, hbase hmem⟩⟩

theorem leaders_filter (h : Arranged groups) (hkeep : ∀ g ∈ groups, keep g = false → follows groups g = true) :
    leaders (groups.filter keep) = leaders groups := by
  rw [leaders, List.filter_filter, leaders]
  apply List.filter_congr
  intro g hg
  rw [follows_filter h hkeep hg]
  cases hkept : keep g with
  | true => simp
  | false => simp [hkeep g hg hkept]

/-- leaving out followers changes no look -/
theorem lookOf_filter (h : Arranged groups) (hkeep : ∀ g ∈ groups, keep g = false → follows groups g = true) {g : String}
    (hg : g ∈ groups) : lookOf theme (groups.filter keep) g = lookOf theme groups g := by
  rw [lookOf, lookOf, colorOf, colorOf, follows_filter h hkeep hg, leaders_filter h hkeep]

end Keep

end Chart

def Benchmark.Results.without (s : Results) (gone : List String) : Results :=
  { s with
    groups := s.groups.filter fun g => g.1 ∉ gone
    sorted := s.sorted.filter _
    sorted_scores := fun g hg => s.sorted_scores g (List.mem_of_mem_filter hg) }

namespace Benchmark

theorem Group.base_lt : ∀ g ∈ displayOrder, isOptimized g = true → base g < g := by decide +kernel

namespace Results

variable {s : Results} {gone : List String}

theorem keys_without : Ordered.keys (s.without gone).groups = (Ordered.keys s.groups).filter fun g => g ∉ gone := by
  rw [without, Ordered.keys, Ordered.keys, List.filter_map]
  rfl

theorem shown_without : (s.without gone).shown = s.shown.filter fun g => g ∉ gone := by
  rw [shown, keys_without, shown, List.filter_filter]
  apply List.filter_congr
  intro g _
  simp [and_comm]

/-- the first group in byte order is a base if it has a variant, so its names stay -/
theorem names_without (hknown : ∀ g ∈ Ordered.keys s.groups, g ∈ Group.displayOrder)
    (hgone : ∀ g ∈ gone, Group.isOptimized g = true ∧ Group.base g ∈ Ordered.keys s.groups) :
    (s.without gone).names = s.names := by
  have hleft : (s.without gone).groups = s.groups.filter fun g => g.1 ∉ gone := rfl
  rw [names, hleft, names]
  cases hgroups : s.groups with
  | nil => rfl
  | cons g rest =>
    have hfirst : g.1 ∉ gone := by
      intro hmem
      obtain ⟨hoptimized, hbase⟩ := hgone g.1 hmem
      have hlt := Group.base_lt g.1 (hknown g.1 (by simp [hgroups, Ordered.keys])) hoptimized
      have hsorted := s.sorted
      rw [hgroups] at hsorted hbase
      obtain ⟨p, hp, hpbase⟩ := List.mem_map.1 hbase
      rcases List.mem_cons.1 hp with rfl | hp
      · rw [← hpbase] at hlt
        exact Std.lt_irrefl hlt
      · have hafter := (List.pairwise_cons.1 hsorted).1 p hp
        rw [hpbase] at hafter
        exact Std.lt_irrefl (Std.lt_trans hlt hafter)
    rw [List.filter_cons_of_pos (by simpa using hfirst)]

end Results

end Benchmark

namespace Chart

/-- **Optimized variants leave the other series alone.** Let some variants whose base is there be left out of a set of
known groups. The chart of what is left has the same names, and its series are the other ones of the chart of the whole
set, with the same looks. Each variant of a base that is there has every channel of the base's color less by 0.2, down
to zero, and the other series take the colors of the palette in turn. -/
theorem variants_leave_other_series_alone {results : Results}
    (hknown : ∀ g ∈ Ordered.keys results.groups, g ∈ Group.displayOrder) (theme : Theme) (limit : Option Float)
    {gone : List String}
    (hgone : ∀ g ∈ gone, Group.isOptimized g = true ∧ Group.base g ∈ Ordered.keys results.groups) :
    ∃ chart smaller, build results theme limit = .ok chart ∧ build (results.without gone) theme limit = .ok smaller ∧
      smaller.names = chart.names ∧ chart.series.map (·.group) = results.shown ∧
      smaller.series.map Series.look = (chart.series.filter fun s => s.group ∉ gone).map Series.look ∧
      chart.Colored theme := by
  obtain ⟨chart, hchart⟩ : ∃ chart, build results theme limit = .ok chart := exists_build_of_known hknown
  obtain ⟨smaller, hsmaller⟩ : ∃ smaller, build (results.without gone) theme limit = .ok smaller :=
    exists_build_of_known fun g hg => hknown g (List.mem_of_mem_filter (Results.keys_without ▸ hg))
  have harranged : Arranged results.shown := arranged_displayOrder.sublist List.filter_sublist
  have hlooks := map_look_build hchart
  have hlooks' := map_look_build hsmaller
  have hkeep : ∀ g ∈ results.shown, decide (g ∉ gone) = false → follows results.shown g = true := by
    intro g hg hmem
    obtain ⟨hoptimized, hbase⟩ := hgone g (by simpa using hmem)
    exact follows_eq_true.2 ⟨hoptimized, List.mem_filter.2 ⟨hknown _ hbase, by simpa using hbase⟩⟩
  refine ⟨chart, smaller, hchart, hsmaller, ?_, map_group_of_looks hlooks, ?_, colored_of_looks harranged hlooks⟩
  · obtain ⟨-, -, hnames, -⟩ := build_eq_ok hchart
    obtain ⟨-, -, hnames', -⟩ := build_eq_ok hsmaller
    rw [hnames, hnames', Results.names_without hknown hgone]
  · calc smaller.series.map Series.look
        = (results.shown.filter fun g => g ∉ gone).map (lookOf theme (results.shown.filter fun g => g ∉ gone)) := by
          rw [hlooks', Results.shown_without]
      _ = (results.shown.filter fun g => g ∉ gone).map (lookOf theme results.shown) := by
          apply List.map_congr_left
          intro g hg
          exact lookOf_filter harranged hkeep (List.mem_of_mem_filter hg)
      _ = (results.shown.map (lookOf theme results.shown)).filter fun l => l.group ∉ gone := by
          rw [List.filter_map]
          rfl
      _ = (chart.series.filter fun s => s.group ∉ gone).map Series.look := by
          rw [← hlooks, List.filter_map]
          rfl

/-- two variants with their bases and one without -/
def variedResults : Results where
  groups := [("TestBaseline", [("a", some 1.0)]), ("TestPullOpt", [("a", some 2.0)]), ("TestPush", [("a", some 3.0)]),
    ("TestPushOpt", [("a", some 4.0)]), ("TestStream", [("a", some 5.0)]), ("TestStreamOpt", [("a", some 6.0)])]

def smallTheme : Theme :=
  { Theme.standard with palette := [⟨1.0, 0.5, 0.0⟩, ⟨0.0, 0.5, 1.0⟩], palette_ne_nil := List.cons_ne_nil _ _ }

/-- the variant without a base is the fourth series to take a color, so it gets the second one of the palette, darkened; one
of the others is left out, and the one that stays has the darkened color of its base, the third to take a color -/
theorem varied_results_keep_looks :
    (∀ g ∈ Ordered.keys variedResults.groups, g ∈ Group.displayOrder) ∧
      (∀ g ∈ ["TestStreamOpt"], Group.isOptimized g = true ∧ Group.base g ∈ Ordered.keys variedResults.groups) ∧
      ∃ chart smaller, build variedResults smallTheme none = .ok chart ∧
        build (variedResults.without ["TestStreamOpt"]) smallTheme none = .ok smaller ∧ smaller.names = chart.names ∧
        smaller.series.map Series.look = (chart.series.filter fun s => s.group ∉ ["TestStreamOpt"]).map Series.look ∧
        chart.leading.map (·.group) = ["TestBaseline", "TestStream", "TestPush", "TestPullOpt"] ∧
        (∃ s, chart.leading[3]? = some s ∧ s.color = ⟨0.0, 0.3, 0.8⟩) ∧
        ∃ s ∈ chart.series, s.group = "TestPushOpt" ∧ s.color = ⟨0.8, 0.3, 0.0⟩ := by
  have hknown : ∀ g ∈ Ordered.keys variedResults.groups, g ∈ Group.displayOrder := by decide +kernel
  have hgone : ∀ g ∈ ["TestStreamOpt"], Group.isOptimized g = true ∧ Group.base g ∈ Ordered.keys variedResults.groups := by
    decide +kernel
  obtain ⟨chart, smaller, hchart, hsmaller, hnames, hgroups, hlooks, hcolored⟩ :=
    variants_leave_other_series_alone hknown smallTheme none hgone
  have hleading : chart.leading.map (·.group) = ["TestBaseline", "TestStream", "TestPush", "TestPullOpt"] := by
    rw [map_group_leading hgroups]
    decide +kernel
  refine ⟨hknown, hgone, chart, smaller, hchart, hsmaller, hnames, hlooks, hleading, ?_, ?_⟩
  · obtain ⟨s, hs, hname⟩ := leading_at (k := 3) (g := "TestPullOpt") (by rw [hleading]; rfl)
    obtain ⟨color, hcolor, hdarkened, -⟩ := hcolored.others 3 s hs
    obtain rfl := Option.some.inj hcolor
    have hd := hdarkened (by rw [hname]; decide +kernel)
    refine ⟨s, hs, Color.ext (hd.red.trans ?_) (hd.green.trans ?_) (hd.blue.trans ?_)⟩
    · decide +kernel
    · decide +kernel
    · decide +kernel
  · obtain ⟨b, hb, hbase⟩ := leading_at (k := 2) (g := "TestPush") (by rw [hleading]; rfl)
    obtain ⟨color, hcolor, -, hplain⟩ := hcolored.others 2 b hb
    obtain rfl := Option.some.inj hcolor
    have hown := hplain (by rw [hbase]; decide +kernel)
    have hshown : "TestPushOpt" ∈ chart.series.map (·.group) := by rw [hgroups]; decide +kernel
    obtain ⟨s, hs, hname⟩ := List.mem_map.1 hshown
    have hd := hcolored.variants s hs (by rw [hname]; decide +kernel) b (List.mem_of_mem_filter (List.mem_of_getElem? hb))
      (by rw [hname, hbase]; decide +kernel)
    rw [hown] at hd
    refine ⟨s, hs, hname, Color.ext (hd.red.trans ?_) (hd.green.trans ?_) (hd.blue.trans ?_)⟩
    · decide +kernel
    · decide +kernel
    · decide +kernel

end Chart

end Benchwork
