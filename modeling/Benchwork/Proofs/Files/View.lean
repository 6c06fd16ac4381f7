/-
What a file tree shows.

`Node.view` says what kind of node stands at each location and leaves out what is below it. Looking a path up depends on
the view alone, and a change of a tree is one equation about it: putting a node into a directory replaces the view at and
below that place (`view_set`), and nothing else. Whatever has something below it is a directory
(`view_eq_dir_of_snoc`).
-/
import Benchwork.Files.Store
import Benchwork.Proofs.Ordered

namespace Benchwork

namespace Node

/-! ## Locations -/

theorem get?_append (x : Node) (a b : Location) : x.get? (a ++ b) = (x.get? a).bind (get? · b) := by
  induction a generalizing x with
  | nil => rfl
  | cons n a ih =>
    simp only [List.cons_append, get?]
    cases x.child? n with
    | none => rfl
    | some y => exact ih y

theorem get?_snoc (x : Node) (loc : Location) (n : Name) : x.get? (loc ++ [n]) = (x.get? loc).bind (·.child? n) := by
  rw [get?_append]
  cases x.get? loc with
  | none => rfl
  | some y => simp only [Option.bind_some, get?]; cases y.child? n <;> rfl

/-! ## The view -/

/-- what stands somewhere, without what is below it -/
def kind : Node → Kind
  | .file content _ => .file content
  | .link target => .link target
  | .dir _ => .dir

/-- the kind of node at each location -/
def view (x : Node) (loc : Location) : Option Kind := (x.get? loc).map kind

theorem kind_eq_dir {x : Node} : x.kind = .dir ↔ ∃ entries, x = .dir entries := by
  cases x <;> simp [kind]

theorem isDir_eq_true {x : Node} : x.isDir = true ↔ x.kind = .dir := by
  cases x <;> simp [kind, isDir]

@[simp]
theorem view_nil (x : Node) : x.view [] = some x.kind := rfl

theorem view_cons (x : Node) (n : Name) (loc : Location) :
    x.view (n :: loc) = (x.child? n).bind (·.view loc) := by
  simp only [view, get?]
  cases x.child? n <;> rfl

theorem view_append (x : Node) (a b : Location) : x.view (a ++ b) = (x.get? a).bind (·.view b) := by
  simp only [view, get?_append]
  cases x.get? a <;> rfl

theorem view_eq_some {x : Node} {loc : Location} {k : Kind} :
    x.view loc = some k ↔ ∃ y, x.get? loc = some y ∧ y.kind = k := by
  simp [view]

theorem view_eq_none {x : Node} {loc : Location} : x.view loc = none ↔ x.get? loc = none := by
  simp [view]

/-- what has something below it is a directory -/
theorem view_eq_dir_of_snoc {x : Node} {loc : Location} {n : Name} (h : x.view (loc ++ [n]) ≠ none) :
    x.view loc = some .dir := by
  rw [Ne, view_eq_none, get?_snoc] at h
  cases hy : x.get? loc with
  | none => simp [hy] at h
  | some y =>
    rw [view, hy]
    cases y with
    | dir entries => rfl
    | file content executable => simp [hy, child?] at h
    | link target => simp [hy, child?] at h

theorem view_dropLast {x : Node} {loc : Location} (h : x.view loc = some .dir) : x.view loc.dropLast = some .dir := by
  rcases List.eq_nil_or_concat loc with rfl | ⟨l, n, rfl⟩
  · exact h
  · rw [List.concat_eq_append] at h ⊢
    rw [List.dropLast_concat]
    exact view_eq_dir_of_snoc (n := n) (by simp [h])

theorem view_root {x : Node} {loc : Location} (h : x.view loc = some .dir) : x.view [] = some .dir := by
  cases loc with
  | nil => exact h
  | cons n loc =>
    rw [view_cons] at h
    cases x with
    | dir entries => rfl
    | file content executable => simp [child?] at h
    | link target => simp [child?] at h

/-- what is below something is there only if that is a directory -/
theorem view_append_eq_none {x : Node} {loc l : Location} (h : x.view loc ≠ some .dir) (hl : l ≠ []) :
    x.view (loc ++ l) = none := by
  cases l with
  | nil => exact absurd rfl hl
  | cons n l =>
    have hn : x.get? (loc ++ [n]) = none := by
      by_contra hne
      exact h (view_eq_dir_of_snoc (mt view_eq_none.1 hne))
    rw [view_eq_none, List.append_cons, get?_append, hn]
    rfl

theorem view_append_eq_none_of_none {x : Node} {loc : Location} (h : x.view loc = none) (l : Location) :
    x.view (loc ++ l) = none := by
  cases l with
  | nil => rw [List.append_nil, h]
  | cons n l => exact view_append_eq_none (by simp [h]) (by simp)

theorem view_of_ne_dir {x : Node} (h : x.kind ≠ .dir) : ∀ l ≠ [], x.view l = none :=
  fun _ hl => view_append_eq_none (show x.view [] ≠ some .dir by simpa using h) hl

theorem view_empty : ∀ l ≠ [], Node.empty.view l = none := by
  intro l hl
  cases l with
  | nil => exact absurd rfl hl
  | cons n l => simp [view_cons, child?, empty]

/-- a walk meets everything that the tree shows -/
theorem mem_walk_of_view {x : Node} {l : Location} {k : Kind} (h : x.view l = some k) : (l, k) ∈ x.walk := by
  induction l generalizing x with
  | nil =>
    obtain rfl := Option.some.inj h
    cases x <;> simp [walk, kind]
  | cons n l ih =>
    rw [view_cons] at h
    obtain ⟨z, hz, hk⟩ := Option.bind_eq_some_iff.1 h
    cases x with
    | file content executable => cases hz
    | link target => cases hz
    | dir entries =>
      have hmem : ∀ entries : List (Name × Node), entries.lookup n = some z →
          (n :: l, k) ∈ walkEntries entries := by
        intro entries hget
        induction entries with
        | nil => cases hget
        | cons entry entries ih' =>
          obtain ⟨m, y⟩ := entry
          rw [walkEntries]
          rw [Ordered.lookup_cons_eq] at hget
          split_ifs at hget with hm
          · obtain rfl := Option.some.inj hget
            refine List.mem_append_left _ ?_
            rw [walkEntry, hm]
            exact List.mem_map.2 ⟨(l, k), ih hk, rfl⟩
          · exact List.mem_append_right _ (ih' hget)
      rw [walk]
      exact List.mem_cons_of_mem _ (hmem entries hz)

theorem set_cons_of_child {entries : List (Name × Node)} {n : Name} {x : Node} (h : entries.lookup n = some x)
    (loc : Location) (y : Node) : (Node.dir entries).set (n :: loc) y = .dir (Ordered.put n (x.set loc y) entries) := by
  cases loc with
  | nil => simp [set]
  | cons m loc => simp [set, h]

theorem set_of_ne_dir {x : Node} (h : x.kind ≠ .dir) {loc : Location} (hloc : loc ≠ []) (y : Node) :
    x.set loc y = x := by
  cases loc with
  | nil => exact absurd rfl hloc
  | cons n loc =>
    cases x with
    | file content executable => simp [set]
    | link target => simp [set]
    | dir entries => exact absurd rfl h

/-- a change below a node is a change of that node -/
theorem get?_set_append {x z : Node} {l : Location} (h : x.get? l = some z) (t : Location) (y : Node) :
    (x.set (l ++ t) y).get? l = some (z.set t y) := by
  induction l generalizing x with
  | nil =>
    obtain rfl := Option.some.inj h
    rfl
  | cons n l ih =>
    cases x with
    | file content executable => simp [get?, child?] at h
    | link target => simp [get?, child?] at h
    | dir entries =>
      obtain ⟨x₁, hx₁, h⟩ := Option.bind_eq_some_iff.1 h
      rw [List.cons_append, set_cons_of_child hx₁]
      simpa [get?, child?] using ih h

/-- a change elsewhere leaves a node as it is -/
theorem get?_set_of_apart {x : Node} {loc l : Location} (h : ¬ loc <+: l) (h' : ¬ l <+: loc) (y : Node) :
    (x.set loc y).get? l = x.get? l := by
  induction l generalizing x loc with
  | nil => exact absurd List.nil_prefix h'
  | cons m l ih =>
    cases loc with
    | nil => exact absurd List.nil_prefix h
    | cons n loc =>
      cases x with
      | file content executable => rw [set_of_ne_dir (by simp [kind]) (by simp)]
      | link target => rw [set_of_ne_dir (by simp [kind]) (by simp)]
      | dir entries =>
        cases hn : entries.lookup n with
        | none =>
          cases loc with
          | nil =>
            have hm : m ≠ n := by rintro rfl; simp at h
            simp [set, get?, child?, Ordered.lookup_put_of_ne hm]
          | cons k loc => simp [set, hn]
        | some z =>
          rw [set_cons_of_child hn]
          by_cases hm : m = n
          · subst hm
            have h₁ : ¬ loc <+: l := by simpa using h
            have h₂ : ¬ l <+: loc := by simpa using h'
            simpa [get?, child?, hn] using ih h₁ h₂
          · simp [get?, child?, Ordered.lookup_put_of_ne hm]

/-- putting a node into a directory replaces what is at and below that place -/
theorem view_set {x : Node} {loc : Location} (h : x.view loc = some .dir) (n : Name) (y : Node) (l : Location) :
    (x.set (loc ++ [n]) y).view l = if loc ++ [n] <+: l then y.view (l.drop (loc.length + 1)) else x.view l := by
  induction loc generalizing x l with
  | nil =>
    obtain ⟨entries, rfl⟩ := kind_eq_dir.1 (Option.some.inj h)
    cases l with
    | nil => simp [set, kind]
    | cons m l =>
      simp only [List.nil_append, set, view_cons, child?, List.length_nil]
      by_cases hm : m = n
      · subst hm
        simp
      · simp [Ordered.lookup_put_of_ne hm, Ne.symm hm]
  | cons k loc ih =>
    rw [view_cons] at h
    cases x with
    | file content executable => simp [child?] at h
    | link target => simp [child?] at h
    | dir entries =>
      cases hk : entries.lookup k with
      | none => simp [child?, hk] at h
      | some z =>
        have hz : z.view loc = some .dir := by simpa [child?, hk] using h
        rw [List.cons_append, set_cons_of_child hk]
        cases l with
        | nil => simp [kind]
        | cons m l =>
          simp only [view_cons, child?]
          by_cases hm : m = k
          · subst hm
            simp [hk, ih hz]
          · simp [Ordered.lookup_put_of_ne hm, Ne.symm hm]

/-- putting a node with nothing below it where no directory stands changes the view in that place alone -/
theorem view_set_leaf {x y : Node} {loc : Location} {n : Name} (h : x.view loc = some .dir)
    (hx : x.view (loc ++ [n]) ≠ some .dir) (hy : ∀ l ≠ [], y.view l = none) :
    (x.set (loc ++ [n]) y).view = Function.update x.view (loc ++ [n]) (some y.kind) := by
  funext l
  rw [view_set h]
  by_cases hl : loc ++ [n] <+: l
  · obtain ⟨t, rfl⟩ := hl
    rw [if_pos (List.prefix_append _ _)]
    cases t with
    | nil => simp
    | cons m t =>
      rw [Function.update_of_ne (by simp), view_append_eq_none hx (by simp)]
      exact hy _ (by simp)
  · rw [if_neg hl, Function.update_of_ne]
    rintro rfl
    exact hl (List.prefix_refl _)

end Node

end Benchwork
