/-
Groups put in display order.

The groups of a set are looked at in byte order, and the first one outside the display order is the failure
(`firstUnknown_of_failsFirst`). So putting them in order succeeds just if all of them are known
(`exists_ordered_iff`). What comes out are the entries of the set, each once and with its own scores, in the places that
the display order has for them; the order in which records were inserted plays no part (`ordered_follows_display_order`).
-/
import Benchwork.Proofs.Chart.StandIns
import Benchwork.Proofs.Text.ByteOrder

namespace Benchwork.Benchmark

open Benchwork.Text

theorem Group.rank?_eq_none {g : String} : rank? g = none ↔ g ∉ displayOrder := by
  constructor
  · intro hnone hmem
    exact rank?_ne_none hmem hnone
  · intro hunknown
    cases hrank : rank? g with
    | none => rfl
    | some n => exact absurd (List.mem_of_getElem? (getElem?_of_rank? hrank)) hunknown

namespace Results

variable {s : Results} {g g' : String} {groups : List (String × Scores)} {e : PlotError}

/-! ## Failures -/

/-- of the groups outside the display order the one with the least bytes -/
structure FirstUnknown (s : Results) (g : String) : Prop where
  present : g ∈ Ordered.keys s.groups
  unknown : g ∉ Group.displayOrder
  least : ∀ g' ∈ Ordered.keys s.groups, g' ∉ Group.displayOrder → Utf8.encode g ≤ Utf8.encode g'

theorem FirstUnknown.unique (h : s.FirstUnknown g) (h' : s.FirstUnknown g') : g = g' := by
  have hle : g ≤ g' := Utf8.encode_le_encode_iff.1 (h.least g' h'.present h'.unknown)
  have hge : g' ≤ g := Utf8.encode_le_encode_iff.1 (h'.least g h.present h.unknown)
  exact Std.le_antisymm hle hge

theorem ordered_eq_error_iff : s.ordered = .error e ↔ ∃ i, FailsFirst ranked s.groups i e := by
  rw [← mapM_eq_error_iff, ordered]
  cases s.groups.mapM ranked with
  | error e' => simp [Except.map]
  | ok rs => simp [Except.map]

/-- the group that fails comes after known ones, and all others come after it -/
theorem firstUnknown_of_failsFirst {i : Nat} (h : FailsFirst ranked s.groups i e) :
    ∃ g, s.FirstUnknown g ∧ e = .unknownGroup g := by
  obtain ⟨before, x, after, hgroups, -, hbefore, hx⟩ := h
  obtain ⟨hrank, rfl⟩ := ranked_eq_error.1 hx
  refine ⟨x.1, ⟨?_, Group.rank?_eq_none.1 hrank, ?_⟩, rfl⟩
  · rw [hgroups]
    exact List.mem_map_of_mem (List.mem_append_right before List.mem_cons_self)
  · intro g' hg' hunknown
    obtain ⟨y, hy, rfl⟩ := List.mem_map.1 hg'
    have hs := s.sorted
    rw [hgroups] at hs hy
    have hafter : ∀ z ∈ after, x.1 < z.1 := (List.pairwise_cons.1 (List.pairwise_append.1 hs).2.1).1
    apply Utf8.encode_le_encode_iff.2
    rcases List.mem_append.1 hy with hy | hy
    · obtain ⟨r, hr⟩ := hbefore y hy
      have hknown := (ranked_eq_ok.1 hr).1
      rw [Group.rank?_eq_none.2 hunknown] at hknown
      cases hknown
    · rcases List.mem_cons.1 hy with rfl | hy
      · exact Std.le_refl _
      · exact Std.le_of_lt (hafter y hy)

/-! ## Success -/

theorem exists_ordered_iff :
    (∃ groups, s.ordered = .ok groups) ↔ ∀ g ∈ Ordered.keys s.groups, g ∈ Group.displayOrder := by
  constructor
  · rintro ⟨groups, hgroups⟩ g hg
    have hperm : (groups.map (·.1)).Perm (Ordered.keys s.groups) := (perm_of_ordered hgroups).map _
    obtain ⟨p, hp, rfl⟩ := List.mem_map.1 (hperm.mem_iff.2 hg)
    exact (pairwise_ordered hgroups).1 p hp
  · intro hknown
    apply exists_ordered
    intro p hp
    exact Group.rank?_ne_none (hknown p.1 (List.mem_map_of_mem hp))

theorem ordered_eq_error_iff_firstUnknown :
    s.ordered = .error e ↔ ∃ g, s.FirstUnknown g ∧ e = .unknownGroup g := by
  have hfails : ∀ e, s.ordered = .error e → ∃ g, s.FirstUnknown g ∧ e = .unknownGroup g := by
    intro e he
    obtain ⟨i, hi⟩ := ordered_eq_error_iff.1 he
    exact firstUnknown_of_failsFirst hi
  refine ⟨hfails e, ?_⟩
  rintro ⟨g, hg, rfl⟩
  cases hordered : s.ordered with
  | ok groups => exact absurd (exists_ordered_iff.1 ⟨groups, hordered⟩ g hg.present) hg.unknown
  | error e =>
    obtain ⟨g', hg', rfl⟩ := hfails e hordered
    rw [hg.unique hg']

/-- only the last scores of the records count -/
theorem ordered_ofRecords {rs rs' : List Record} (hgroups : (ofRecords rs).groups = s.groups)
    (hlast : ∀ g n, lastScore rs' g n = lastScore rs g n) : (ofRecords rs').ordered = s.ordered := by
  rw [ofRecords_congr hlast, ordered, ordered, hgroups]

/-- **Groups are shown in the display order.** They can be put in order just if all of them are known. They are then
the entries of the set, each once and with its own scores, and their names are those of the display order that are
there. Otherwise the group with the least bytes among the unknown ones is named. Other insertions with the same outcome
give the same. -/
theorem ordered_follows_display_order (s : Results) :
    ((∃ groups, s.ordered = .ok groups) ↔ ∀ g ∈ Ordered.keys s.groups, g ∈ Group.displayOrder) ∧
    (∀ groups, s.ordered = .ok groups → groups.Perm s.groups ∧
      groups.map (·.1) = Group.displayOrder.filter fun g => g ∈ Ordered.keys s.groups) ∧
    (∀ e, s.ordered = .error e ↔ ∃ g, s.FirstUnknown g ∧ e = .unknownGroup g) ∧
    ∀ rs rs', (ofRecords rs).groups = s.groups → (∀ g n, lastScore rs' g n = lastScore rs g n) →
      (ofRecords rs').ordered = s.ordered := by
  refine ⟨exists_ordered_iff, ?_, ?_, ?_⟩
  · intro groups hgroups
    exact ⟨perm_of_ordered hgroups, map_ordered hgroups⟩
  · intro e
    exact ordered_eq_error_iff_firstUnknown
  · intro rs rs' hgroups hlast
    exact ordered_ofRecords hgroups hlast

/-- three known groups, inserted against the display order; the first one has two names -/
def pullFirst : List Record :=
  [⟨"TestPull", "a", some 2.0⟩, ⟨"TestStreamOpt", "a", none⟩, ⟨"TestBaseline", "a", some 4.0⟩, ⟨"TestPull", "b", some 1.0⟩]

/-- a known group before two that are not; one of them has a letter of two bytes -/
def strayGroups : Results where
  groups := [("TestPull", [("a", none)]), ("TestStreams", []), ("Testé", [])]

/-- in byte order the last two groups of the first set would change places; of the unknown groups of the second set the one
with the smaller bytes is named -/
theorem ordered_follows_display_order_mixed :
    (∃ groups, (ofRecords pullFirst).ordered = .ok groups ∧
      groups.map (·.1) = ["TestBaseline", "TestStreamOpt", "TestPull"] ∧
      ("TestPull", [("a", some 2.0), ("b", some 1.0)]) ∈ groups) ∧
    strayGroups.ordered = .error (.unknownGroup "TestStreams") := by
  obtain ⟨hok, hgroups, -, -⟩ := ordered_follows_display_order (ofRecords pullFirst)
  obtain ⟨-, -, herror, -⟩ := ordered_follows_display_order strayGroups
  obtain ⟨groups, hordered⟩ := hok.2 (by decide +kernel)
  obtain ⟨hperm, hnames⟩ := hgroups groups hordered
  refine ⟨⟨groups, hordered, ?_, hperm.mem_iff.2 ?_⟩, (herror _).2 ⟨"TestStreams", ?_, rfl⟩⟩
  · rw [hnames]
    decide +kernel
  · exact Ordered.mem_of_lookup rfl
  · exact ⟨by decide +kernel, by decide +kernel, by decide +kernel⟩

end Results

end Benchwork.Benchmark
