/-
Result sets as maps from groups and names to scores.

`Results.get?` is the entry for a name in a group: none if there is none, and `some none` for a missing measurement. A
set that is made by insertions is well formed: no group is without names. Such a set is told by its entries and its
virtual machine (`WellFormed.ext`), since the order of groups and names is fixed. So whatever is done to a set is said
by one equation about `get?`: inserting records, of which the last one for a key counts (`get?_foldl_insert`), keeping
some of the entries (`get?_restrict`) and changing every score (`get?_mapScores`).

Before that, what it means that attempts on a list succeed or fail: all of them do (`mapM_eq_ok`), or one does not and none
before it (`FailsFirst`).
-/
import Benchwork.Benchmark.Results
import Benchwork.Proofs.Ordered

namespace Benchwork.Benchmark

/-! ## Attempts on every item of a list -/

theorem mapM_eq_ok {α β ε : Type} {f : α → Except ε β} {xs : List α} {ys : List β} (h : xs.mapM f = .ok ys) :
    List.Forall₂ (fun x y => f x = .ok y) xs ys := by
  induction xs generalizing ys with
  | nil => rw [← Except.ok.inj h]; exact .nil
  | cons x xs ih =>
    rw [List.mapM_cons] at h
    cases hx : f x with
    | error e => rw [hx] at h; cases h
    | ok y =>
      cases hrest : xs.mapM f with
      | error e => rw [hx, hrest] at h; cases h
      | ok rest =>
        rw [hx, hrest] at h
        rw [← Except.ok.inj h]
        exact .cons hx (ih hrest)

/-- `f` fails for the item with this number, and for none before it -/
def FailsFirst {α β ε : Type} (f : α → Except ε β) (xs : List α) (index : Nat) (e : ε) : Prop :=
  ∃ before x after, xs = before ++ x :: after ∧ index = before.length ∧ (∀ y ∈ before, ∃ z, f y = .ok z) ∧ f x = .error e

section FailsFirst

variable {α β ε : Type} {f : α → Except ε β} {x : α} {xs : List α} {index : Nat} {e : ε}

theorem not_failsFirst_nil : ¬ FailsFirst f [] index e := by
  rintro ⟨before, x, after, hnil, -⟩
  simp at hnil

theorem failsFirst_cons_of_error {e' : ε} (hx : f x = .error e') : FailsFirst f (x :: xs) index e ↔ index = 0 ∧ e = e' := by
  constructor
  · rintro ⟨before, x', after, hcons, rfl, hbefore, hx'⟩
    cases before with
    | nil =>
      obtain ⟨rfl, -⟩ := List.cons.inj hcons
      exact ⟨rfl, Except.error.inj (hx'.symm.trans hx)⟩
    | cons y before =>
      obtain ⟨rfl, -⟩ := List.cons.inj hcons
      obtain ⟨z, hz⟩ := hbefore x List.mem_cons_self
      cases hz.symm.trans hx
  · rintro ⟨rfl, rfl⟩
    exact ⟨[], x, xs, rfl, rfl, by simp, hx⟩

theorem failsFirst_cons_of_ok {y : β} (hx : f x = .ok y) :
    FailsFirst f (x :: xs) index e ↔ ∃ i, index = i + 1 ∧ FailsFirst f xs i e := by
  constructor
  · rintro ⟨before, x', after, hcons, rfl, hbefore, hx'⟩
    cases before with
    | nil =>
      obtain ⟨rfl, -⟩ := List.cons.inj hcons
      cases hx.symm.trans hx'
    | cons y before =>
      obtain ⟨-, rfl⟩ := List.cons.inj hcons
      exact ⟨before.length, rfl, before, x', after, rfl, rfl, fun y hy => hbefore y (List.mem_cons_of_mem _ hy), hx'⟩
  · rintro ⟨_, rfl, before, x', after, rfl, rfl, hbefore, hx'⟩
    exact ⟨x :: before, x', after, rfl, rfl, List.forall_mem_cons.2 ⟨⟨y, hx⟩, hbefore⟩, hx'⟩

/-- attempts on a list fail as the first one that fails -/
theorem mapM_eq_error_iff : xs.mapM f = .error e ↔ ∃ i, FailsFirst f xs i e := by
  induction xs with
  | nil =>
    refine ⟨fun h => (by cases h), ?_⟩
    rintro ⟨i, hi⟩
    exact absurd hi not_failsFirst_nil
  | cons x xs ih =>
    rw [List.mapM_cons]
    cases hx : f x with
    | error e' =>
      simp only [failsFirst_cons_of_error hx, exists_eq_left]
      exact ⟨fun h => (Except.error.inj h).symm, fun h => h ▸ rfl⟩
    | ok y =>
      have hrest : (∃ i, FailsFirst f (x :: xs) i e) ↔ ∃ i, FailsFirst f xs i e := by
        constructor
        · rintro ⟨_, hi⟩
          obtain ⟨i, -, hi⟩ := (failsFirst_cons_of_ok hx).1 hi
          exact ⟨i, hi⟩
        · rintro ⟨i, hi⟩
          exact ⟨i + 1, (failsFirst_cons_of_ok hx).2 ⟨i, rfl, hi⟩⟩
      rw [hrest, ← ih]
      cases xs.mapM f with
      | error e' => exact Iff.rfl
      | ok ys => exact ⟨fun h => (by cases h), fun h => (by cases h)⟩

theorem mapM_eq_error (h : xs.mapM f = .error e) : ∃ x ∈ xs, f x = .error e := by
  obtain ⟨_, before, x, after, rfl, -, -, hx⟩ := mapM_eq_error_iff.1 h
  exact ⟨x, List.mem_append_right before List.mem_cons_self, hx⟩

end FailsFirst

theorem mapM_eq_map {α β γ ε : Type} {f : α → Except ε β} {f' : α → Except ε γ} {h : β → γ}
    (hf : ∀ x, f' x = (f x).map h) (xs : List α) : xs.mapM f' = (xs.mapM f).map (List.map h) := by
  induction xs with
  | nil => rfl
  | cons x xs ih =>
    rw [List.mapM_cons, List.mapM_cons, hf, ih]
    cases f x with
    | error e => rfl
    | ok y =>
      cases xs.mapM f with
      | error e => rfl
      | ok ys => rfl

/-- the score that a record gives for a name in a group, if it is about them -/
def Record.scoreFor (group name : String) (r : Record) : Option (Option Float) :=
  if r.group = group ∧ r.name = name then some r.score else none

namespace Results

/-! ## Entries -/

/-- the entry for a name in a group; `some none` is a missing measurement -/
def get? (s : Results) (group name : String) : Option (Option Float) :=
  (s.groups.lookup group).bind (·.lookup name)

@[simp]
theorem get?_empty (g n : String) : get? empty g n = none := rfl

theorem lookup_scoresOf (s : Results) (g n : String) : (s.scoresOf g).lookup n = s.get? g n := by
  unfold scoresOf get?
  cases s.groups.lookup g with
  | none => rfl
  | some scores => rfl

theorem get?_insert (s : Results) (r : Record) (g n : String) :
    (s.insert r).get? g n = (r.scoreFor g n).or (s.get? g n) := by
  by_cases hg : r.group = g
  · subst hg
    have hentry : (s.insert r).get? r.group n = (Ordered.put r.name r.score (s.scoresOf r.group)).lookup n := by
      simp [get?, insert]
    rw [hentry, Ordered.lookup_put, lookup_scoresOf]
    by_cases hn : r.name = n
    · simp [Record.scoreFor, hn]
    · simp [Record.scoreFor, hn, Ne.symm hn]
  · simp [get?, insert, Record.scoreFor, hg, Ordered.lookup_put_of_ne (Ne.symm hg)]

/-- of several records for a key the last one counts -/
theorem get?_foldl_insert (rs : List Record) (s : Results) (g n : String) :
    (rs.foldl insert s).get? g n = (rs.filterMap (Record.scoreFor g n)).getLast?.or (s.get? g n) := by
  induction rs generalizing s with
  | nil => rfl
  | cons r rs ih =>
    rw [List.foldl_cons, ih, get?_insert, ← Option.or_assoc, List.filterMap_cons]
    congr 1
    cases r.scoreFor g n with
    | none => simp
    | some x => cases hlast : (rs.filterMap (Record.scoreFor g n)).getLast? <;> simp [List.getLast?_cons, hlast]

theorem vm_foldl_insert (rs : List Record) (s : Results) : (rs.foldl insert s).vm = s.vm := by
  induction rs generalizing s with
  | nil => rfl
  | cons r rs ih => rw [List.foldl_cons, ih]; rfl

/-! ## Well-formed sets -/

/-- every group has a name -/
def WellFormed (s : Results) : Prop := ∀ g ∈ s.groups, g.2 ≠ []

theorem wellFormed_empty : WellFormed empty := fun _ h => absurd h List.not_mem_nil

theorem WellFormed.withVm {s : Results} (h : s.WellFormed) (vm : Option Vm) : WellFormed { s with vm } := h

theorem WellFormed.insert {s : Results} (h : s.WellFormed) (r : Record) : (s.insert r).WellFormed := by
  intro g hg
  rcases Ordered.mem_put hg with rfl | hg
  · exact Ordered.put_ne_nil _ _ _
  · exact h g hg

theorem WellFormed.foldl_insert {s : Results} (h : s.WellFormed) (rs : List Record) :
    (rs.foldl Results.insert s).WellFormed := by
  induction rs generalizing s with
  | nil => exact h
  | cons r rs ih => exact ih (h.insert r)

theorem WellFormed.exists_get? {s : Results} (h : s.WellFormed) {g : String} {scores : Scores}
    (hg : s.groups.lookup g = some scores) : ∃ n x, s.get? g n = some x := by
  obtain ⟨b, rest, rfl⟩ := List.exists_cons_of_ne_nil (h _ (Ordered.mem_of_lookup hg))
  exact ⟨b.1, b.2, by rw [get?, hg, Option.bind_some, List.lookup_cons_self]⟩

/-- the groups of a set are those with an entry -/
theorem WellFormed.mem_keys {s : Results} (h : s.WellFormed) {g : String} :
    g ∈ Ordered.keys s.groups ↔ ∃ n, s.get? g n ≠ none := by
  constructor
  · intro hg
    obtain ⟨⟨_, scores⟩, hmem, rfl⟩ := List.mem_map.1 hg
    obtain ⟨n, x, hx⟩ := h.exists_get? (s.sorted.lookup_eq_some.2 hmem)
    exact ⟨n, by simp [hx]⟩
  · rintro ⟨n, hn⟩
    cases hg : s.groups.lookup g with
    | none => simp [get?, hg] at hn
    | some scores => exact List.mem_map.2 ⟨_, Ordered.mem_of_lookup hg, rfl⟩

/-- a well-formed set is told by its entries and its virtual machine -/
theorem WellFormed.ext {s t : Results} (hs : s.WellFormed) (ht : t.WellFormed) (hvm : s.vm = t.vm)
    (hget : ∀ g n, s.get? g n = t.get? g n) : s = t := by
  refine Results.ext (s.sorted.ext t.sorted fun g => ?_) hvm
  -- a group that only one of them has would have a name, and so an entry, in that one alone
  cases hsg : s.groups.lookup g with
  | none =>
    cases htg : t.groups.lookup g with
    | none => rfl
    | some b =>
      obtain ⟨n, x, hx⟩ := ht.exists_get? htg
      rw [← hget] at hx
      simp [get?, hsg] at hx
  | some a =>
    cases htg : t.groups.lookup g with
    | none =>
      obtain ⟨n, x, hx⟩ := hs.exists_get? hsg
      rw [hget] at hx
      simp [get?, htg] at hx
    | some b =>
      have hnames : ∀ n, a.lookup n = b.lookup n := fun n => by
        simpa [get?, hsg, htg] using hget g n
      have hsorted : Ordered.Sorted a := s.sorted_scores _ (Ordered.mem_of_lookup hsg)
      have hsorted' : Ordered.Sorted b := t.sorted_scores _ (Ordered.mem_of_lookup htg)
      rw [hsorted.ext hsorted' hnames]

/-! ## Part of a set -/

def keepNames (keep : String → String → Bool) (group : String) (scores : Scores) : Scores :=
  scores.filter fun b => keep group b.1

/-- the entries with a key to keep; groups that have none left are gone -/
def restrict (s : Results) (keep : String → String → Bool) : Results where
  groups := (s.groups.map fun g => (g.1, keepNames keep g.1 g.2)).filter fun g => !g.2.isEmpty
  vm := s.vm
  sorted := (s.sorted.map (keepNames keep)).filter _
  sorted_scores := fun g hg => by
    obtain ⟨g₀, hg₀, rfl⟩ := List.mem_map.1 (List.mem_of_mem_filter hg)
    exact (s.sorted_scores g₀ hg₀).filter _

theorem lookup_keepNames {scores : Scores} (h : Ordered.Sorted scores) (keep : String → String → Bool) (g n : String) :
    (keepNames keep g scores).lookup n = if keep g n then scores.lookup n else none := by
  rw [keepNames, h.lookup_filter]
  cases scores.lookup n with
  | none => simp
  | some x => simp [Option.filter]

theorem get?_restrict (s : Results) (keep : String → String → Bool) (g n : String) :
    (s.restrict keep).get? g n = if keep g n then s.get? g n else none := by
  have hgroup : (s.restrict keep).groups.lookup g =
      ((s.groups.lookup g).map (keepNames keep g)).filter fun scores => !scores.isEmpty := by
    rw [restrict, (s.sorted.map (keepNames keep)).lookup_filter, Ordered.lookup_map]
  unfold get?
  rw [hgroup]
  cases hg : s.groups.lookup g with
  | none => simp
  | some scores =>
    have hname := lookup_keepNames (s.sorted_scores _ (Ordered.mem_of_lookup hg)) keep g n
    -- a group that is gone has no name to keep
    by_cases hempty : keepNames keep g scores = []
    · rw [hempty, List.lookup_nil] at hname
      simpa [Option.filter, hempty] using hname
    · simpa [Option.filter, hempty] using hname

theorem wellFormed_restrict (s : Results) (keep : String → String → Bool) : (s.restrict keep).WellFormed :=
  fun _ hg => by simpa using (List.mem_filter.1 hg).2

/-! ## Every score changed -/

def changeEach (f : Option Float → Option Float) (scores : Scores) : Scores := scores.map fun b => (b.1, f b.2)

def mapScores (f : Option Float → Option Float) (s : Results) : Results where
  groups := s.groups.map fun g => (g.1, changeEach f g.2)
  vm := s.vm
  sorted := s.sorted.map fun _ => changeEach f
  sorted_scores := fun g hg => by
    obtain ⟨g₀, hg₀, rfl⟩ := List.mem_map.1 hg
    exact (s.sorted_scores g₀ hg₀).map fun _ => f

theorem get?_mapScores (f : Option Float → Option Float) (s : Results) (g n : String) :
    (s.mapScores f).get? g n = (s.get? g n).map f := by
  unfold get? mapScores
  rw [Ordered.lookup_map fun _ => changeEach f]
  cases s.groups.lookup g with
  | none => rfl
  | some scores => exact Ordered.lookup_map (fun _ => f) n scores

theorem WellFormed.mapScores {s : Results} (h : s.WellFormed) (f : Option Float → Option Float) :
    (s.mapScores f).WellFormed := by
  intro g hg
  obtain ⟨g₀, hg₀, rfl⟩ := List.mem_map.1 hg
  simpa [changeEach] using h g₀ hg₀

end Results

end Benchwork.Benchmark
