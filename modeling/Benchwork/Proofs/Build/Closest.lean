/-
Closest descriptors.

`shallowest` keeps the best paths seen so far while it goes through a list. `nearest` says what it finds: the paths that
no path of the list is above, in the order of the list. It can be taken of the parts of a list first (`nearest_append`),
and one pass finds what two would (`shallowest_in_two_passes`).

With it, how a repository is built can be read off what a walk of it met (`detect_eq_map`): Maven if the walk met a
Maven descriptor at all, else Gradle if it met a wrapper script, and from the descriptors that are nearest.
-/
import Mathlib.Data.Finset.Max
import Benchwork.Build.Descriptor

namespace Benchwork.Build

open Benchwork.Text

/-- the paths of a list with the fewest components, in its order -/
def nearest (paths : List Path) : List Path := paths.filter fun p => paths.all fun q => p.depth ≤ q.depth

theorem mem_nearest {paths : List Path} {p : Path} :
    p ∈ nearest paths ↔ p ∈ paths ∧ ∀ q ∈ paths, p.depth ≤ q.depth := by
  simp [nearest]

theorem nearest_eq_nil {paths : List Path} : nearest paths = [] ↔ paths = [] := by
  constructor
  · intro h
    by_contra hne
    obtain ⟨p, hp, hmin⟩ := Finset.exists_min_image paths.toFinset Path.depth (by simpa using hne)
    have hmem : p ∈ nearest paths := mem_nearest.2 ⟨by simpa using hp, fun q hq => hmin q (by simpa using hq)⟩
    rw [h] at hmem
    cases hmem
  · rintro rfl
    rfl

/-- a path with more components than another one of the list makes no difference -/
theorem nearest_append_cons_of_lt {before after : List Path} {p q : Path} (hq : q ∈ before ++ after)
    (h : q.depth < p.depth) : nearest (before ++ p :: after) = nearest (before ++ after) := by
  have hkeep : ∀ x : Path, (before ++ p :: after).all (fun y => decide (x.depth ≤ y.depth)) =
      (before ++ after).all (fun y => decide (x.depth ≤ y.depth)) := by
    intro x
    rw [Bool.eq_iff_iff]
    simp only [List.all_eq_true, List.mem_append, List.mem_cons, decide_eq_true_eq] at hq ⊢
    constructor
    · intro hall y hy
      exact hall y (hy.imp_right .inr)
    · rintro hall y (hy | rfl | hy)
      · exact hall y (.inl hy)
      · exact (hall q hq).trans h.le
      · exact hall y (.inr hy)
  have hp : (before ++ after).all (fun y => decide (p.depth ≤ y.depth)) = false := by
    rw [List.all_eq_false]
    exact ⟨q, hq, by simpa using h⟩
  simp only [nearest, hkeep]
  rw [List.filter_append, List.filter_append, List.filter_cons_of_neg (by simp [hp])]

/-- paths with more components than the next one of the list make no difference -/
theorem nearest_append_cons_of_forall_lt {before after : List Path} {p : Path}
    (h : ∀ q ∈ before, p.depth < q.depth) : nearest (before ++ p :: after) = nearest (p :: after) := by
  induction before with
  | nil => rfl
  | cons q before ih =>
    rw [← ih fun x hx => h x (List.mem_cons_of_mem q hx)]
    exact @nearest_append_cons_of_lt [] _ q p (by simp) (h q List.mem_cons_self)

/-- what was kept so far stands for all that was seen -/
theorem shallowestFrom_eq {best : List Path} {depth : Nat} (hbest : ∀ p ∈ best, p.depth = depth) (rest : List Path) :
    shallowestFrom best depth rest = nearest (best ++ rest) := by
  induction rest generalizing best depth with
  | nil =>
    rw [shallowestFrom, List.append_nil, nearest, List.filter_eq_self.2]
    intro p hp
    simp only [List.all_eq_true, decide_eq_true_eq]
    intro q hq
    rw [hbest p hp, hbest q hq]
  | cons p rest ih =>
    rw [shallowestFrom]
    split_ifs with hdeeper hcloser
    · obtain ⟨q, hq⟩ := List.exists_mem_of_ne_nil best hdeeper.1
      rw [ih hbest]
      exact (nearest_append_cons_of_lt (List.mem_append_left _ hq) (by rw [hbest q hq]; exact hdeeper.2)).symm
    · rw [ih (by simp), List.singleton_append]
      refine (nearest_append_cons_of_forall_lt fun q hq => ?_).symm
      rcases hcloser with rfl | hlt
      · cases hq
      · rwa [hbest q hq]
    · rw [not_or] at hcloser
      have hp : p.depth = depth := by
        have hle : ¬ p.depth > depth := fun hgt => hdeeper ⟨hcloser.1, hgt⟩
        omega
      rw [ih]
      · simp
      · intro q hq
        rcases List.mem_append.1 hq with hq | hq
        · exact hbest q hq
        · rw [List.mem_singleton.1 hq, hp]

theorem shallowest_eq_nearest (paths : List Path) : shallowest paths = nearest paths :=
  shallowestFrom_eq (by simp) paths

/-! ## Parts of a list -/

/-- the nearest paths bound the depth of all of them -/
theorem forall_mem_nearest_le {paths : List Path} {n : Nat} :
    (∀ q ∈ nearest paths, n ≤ q.depth) ↔ ∀ q ∈ paths, n ≤ q.depth := by
  constructor
  · intro h q hq
    have hne : nearest paths ≠ [] := fun hnil => List.ne_nil_of_mem hq (nearest_eq_nil.1 hnil)
    obtain ⟨p, hp⟩ := List.exists_mem_of_ne_nil _ hne
    exact (h p hp).trans ((mem_nearest.1 hp).2 q hq)
  · intro h q hq
    exact h q (mem_nearest.1 hq).1

/-- what is nearest in a list is nearest in the part where it stands -/
theorem filter_nearest {l paths : List Path} (h : l ⊆ paths) :
    (nearest l).filter (fun p => paths.all fun q => p.depth ≤ q.depth) =
      l.filter fun p => paths.all fun q => p.depth ≤ q.depth := by
  rw [nearest, List.filter_filter]
  refine List.filter_congr fun p _ => ?_
  rw [Bool.and_eq_left_iff_imp, List.all_eq_true, List.all_eq_true]
  exact fun hall q hq => hall q (h hq)

theorem nearest_append (a b : List Path) : nearest (a ++ b) = nearest (nearest a ++ nearest b) := by
  have hkeep : ∀ p : Path, (nearest a ++ nearest b).all (fun q => decide (p.depth ≤ q.depth)) =
      (a ++ b).all (fun q => decide (p.depth ≤ q.depth)) := by
    intro p
    rw [Bool.eq_iff_iff]
    simp only [List.all_eq_true, decide_eq_true_eq, List.forall_mem_append, forall_mem_nearest_le]
  calc nearest (a ++ b)
    _ = a.filter (fun p => (a ++ b).all fun q => p.depth ≤ q.depth) ++
        b.filter (fun p => (a ++ b).all fun q => p.depth ≤ q.depth) := List.filter_append a b
    _ = (nearest a ++ nearest b).filter (fun p => (a ++ b).all fun q => p.depth ≤ q.depth) := by
      rw [List.filter_append, filter_nearest (List.subset_append_left a b),
        filter_nearest (List.subset_append_right a b)]
    _ = nearest (nearest a ++ nearest b) := by simp only [nearest.eq_1 (nearest a ++ nearest b), hkeep]

theorem nearest_nearest (paths : List Path) : nearest (nearest paths) = nearest paths := by
  have h := nearest_append paths []
  rw [nearest_eq_nil.2 (Eq.refl ([] : List Path)), List.append_nil, List.append_nil] at h
  exact h.symm

/-- the nearest paths have the least number of components -/
theorem nearest_eq_filter_min? (paths : List Path) :
    nearest paths = paths.filter fun p => (paths.map Path.depth).min? = some p.depth := by
  refine List.filter_congr fun p hp => ?_
  rw [Bool.eq_iff_iff, decide_eq_true_eq, List.min?_eq_some_iff]
  simp [List.mem_map_of_mem hp]

/-- **One pass finds what two find**, the first for the least number of components and the second for the paths that
have it. So all of the paths found are found again among themselves, and a list can be searched in parts. -/
theorem shallowest_in_two_passes (paths a b : List Path) :
    shallowest paths =
        paths.filter (fun p => (paths.map (·.components.length)).min? = some p.components.length) ∧
      shallowest [] = [] ∧ shallowest (shallowest paths) = shallowest paths ∧
      shallowest (a ++ b) = shallowest (shallowest a ++ shallowest b) := by
  simp only [shallowest_eq_nearest]
  exact ⟨nearest_eq_filter_min? paths, rfl, nearest_nearest paths, nearest_append a b⟩

example : shallowest (["a/b", "c", "./d", "e//"].map Path.ofString) = ["c", "e//"].map Path.ofString := by
  decide +kernel

/-! ## Detection -/

namespace Descriptor

/-- a walk that comes to its end has opened every directory -/
theorem walk_eq_ok {fs : FileStore} {root : Path} {met : List (Location × Kind)} :
    walk fs root = .ok met ↔ scene fs root = .ok met ∧ ∀ m ∈ met, isOutOfReach root m = false := by
  rw [walk]
  cases hscene : scene fs root with
  | error f => simp
  | ok all =>
    dsimp only
    cases hfind : all.find? (isOutOfReach root) with
    | none =>
      have hall : ∀ m ∈ all, isOutOfReach root m = false := by simpa using hfind
      constructor
      · intro h
        obtain rfl := Except.ok.inj h
        exact ⟨rfl, hall⟩
      · rintro ⟨h, -⟩
        obtain rfl := Except.ok.inj h
        rfl
    | some m =>
      constructor
      · intro h
        cases h
      · rintro ⟨h, hall⟩
        obtain rfl := Except.ok.inj h
        have hfar := List.find?_some hfind
        rw [hall m (List.mem_of_find?_eq_some hfind)] at hfar
        cases hfar

def called (root : Path) (name : String) (met : List (Location × Kind)) : List Path :=
  (met.filter (isMatch root (Utf8.encode name))).map fun m => pathFrom root m.1

theorem find_eq_map (fs : FileStore) (root : Path) (name : String) :
    find fs root name = (walk fs root).map fun met => nearest (called root name met) := by
  simp only [find, shallowest_eq_nearest]
  rfl

end Descriptor

open Descriptor in
/-- how a repository is built, going by what a walk of it met -/
def systemMet (root : Path) (met : List (Location × Kind)) : BuildSystem :=
  if called root maven met ≠ [] then .maven (nearest (called root maven met))
  else if called root gradle met ≠ [] then .gradle (nearest (called root gradle met))
  else .unknown

theorem detect_eq_map (fs : FileStore) (root : Path) :
    BuildSystem.detect fs root = (Descriptor.walk fs root).map (systemMet root) := by
  rw [BuildSystem.detect, Descriptor.find_eq_map, Descriptor.find_eq_map]
  cases Descriptor.walk fs root with
  | error e => rfl
  | ok met =>
    have hpure : ∀ (name : String) (f g : Except BuildError BuildSystem),
        (if nearest (Descriptor.called root name met) ≠ [] then f else g) =
          if Descriptor.called root name met ≠ [] then f else g := by
      intro name f g
      simp only [ne_eq, nearest_eq_nil]
    change (if nearest (Descriptor.called root Descriptor.maven met) ≠ [] then _ else
      if nearest (Descriptor.called root Descriptor.gradle met) ≠ [] then _ else _) = Except.ok (systemMet root met)
    rw [hpure, hpure, systemMet]
    split_ifs <;> rfl

end Benchwork.Build
