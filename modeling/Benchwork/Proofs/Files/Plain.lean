/-
Stores without links.

Where nothing is a link, the place of a path can be read off the path (`place`): all that the store decides is whether
the path gets there (`Leads.loc_eq`). So writing puts a file at the place of its path (`edit_at_place`), and making a
directory with those above it adds directories that bear names from its path (`Makes.onlyNewDirs`). Neither brings in
a link.
-/
import Benchwork.Proofs.Files.Change

namespace Benchwork

namespace FileStore

def Plain (fs : FileStore) : Prop := ∀ l target, fs.root.view l ≠ some (.link target)

/-! ## Places -/

def Step.go (loc : Location) : Step → Location
  | .here => loc
  | .slash => loc
  | .up => loc.dropLast
  | .down n => loc ++ [n]

/-- where a path leads if there is no link on the way -/
def place (fs : FileStore) (p : Path) : Location := ((segmentsOf p).map Step.ofSegment).foldl Step.go (fs.start p)

theorem place_congr {fs fs' : FileStore} (h : fs'.cwd = fs.cwd) (p : Path) : fs'.place p = fs.place p := by
  rw [place, place, start_congr h]

theorem foldl_go_stepsOf (p : Path) (loc : Location) :
    (stepsOf p).foldl Step.go loc = ((segmentsOf p).map Step.ofSegment).foldl Step.go loc := by
  rw [stepsOf_eq]
  split_ifs <;> simp [Step.go]

theorem place_join_ordinary {p : Path} {n : Name} (hn : Path.IsOrdinary n) (fs : FileStore) :
    fs.place (p.join ⟨n⟩) = fs.place p ++ [n] := by
  rw [place, place, start_join hn.isAbsolute, segmentsOf_join hn.isAbsolute, segmentsOf_of_not_mem hn.2.1 hn.1]
  simp [Step.ofSegment_ordinary hn, Step.go]

/-- a name that stands for no entry leads no deeper -/
theorem length_place_join_le {p : Path} {n : Name} (hslash : Path.slash ∉ n) (hn : ¬ Path.IsOrdinary n)
    (fs : FileStore) : (fs.place (p.join ⟨n⟩)).length ≤ (fs.place p).length := by
  have habs := Path.isAbsolute_of_not_mem hslash
  rw [place, place, start_join habs, segmentsOf_join habs, List.map_append, List.foldl_append]
  rcases Path.eq_of_not_isOrdinary hslash hn with rfl | rfl | rfl
  · exact le_rfl
  · exact le_rfl
  · exact List.length_dropLast.trans_le (Nat.sub_le _ _)

/-- without links, steps lead where they go -/
theorem Reach.loc_eq {v : Location → Option Kind} (hv : ∀ l target, v l ≠ some (.link target)) {purpose : Purpose}
    {links : Nat} {loc : Location} {rest : List Step} {r : Place} (h : Reach v purpose links loc rest r) :
    r.loc = rest.foldl Step.go loc := by
  induction h with
  | done => rfl
  | here _ ih => exact ih
  | slash _ ih => exact ih
  | up _ ih => exact ih
  | enter _ _ _ _ ih => exact ih
  | file => rfl
  | free => rfl
  | stop => rfl
  | follow _ _ hlink => exact absurd hlink (hv _ _)

theorem Leads.loc_eq {fs : FileStore} (hfs : fs.Plain) {purpose : Purpose} {p : Path} {r : Place}
    (h : fs.Leads purpose p r) : r.loc = fs.place p := by
  rw [h.reach.loc_eq hfs, foldl_go_stepsOf, place]

theorem Enters.eq_place {fs : FileStore} (hfs : fs.Plain) {p : Path} {R : Location} (h : fs.Enters p R) :
    R = fs.place p :=
  h.reach.loc_eq hfs

/-- a name that stands for no entry has a directory for its place -/
theorem Enters.view_place_join {fs : FileStore} (hfs : fs.Plain) {p : Path} {R : Location} (h : fs.Enters p R)
    {n : Name} (hslash : Path.slash ∉ n) (hn : ¬ Path.IsOrdinary n) : fs.root.view (fs.place (p.join ⟨n⟩)) = some .dir := by
  have habs := Path.isAbsolute_of_not_mem hslash
  have hR : ((segmentsOf p).map Step.ofSegment).foldl Step.go (fs.start p) = R := (h.eq_place hfs).symm
  rw [place, start_join habs, segmentsOf_join habs, List.map_append, List.foldl_append, hR]
  rcases Path.eq_of_not_isOrdinary hslash hn with rfl | rfl | rfl
  · exact h.dir
  · exact h.dir
  · exact Node.view_dropLast h.dir

/-- a path that exists leads to its place -/
theorem leads_place {fs : FileStore} (hfs : fs.Plain) {p : Path} (h : fs.pathExists p = true) :
    fs.Leads .target p (.found (fs.place p)) := by
  obtain ⟨L, hL⟩ := pathExists_iff.1 h
  obtain rfl : L = fs.place p := hL.loc_eq hfs
  exact hL

/-! ## Writing -/

theorem Placed.plain {fs fs' : FileStore} {loc : Location} {k : Kind} (h : fs.Placed loc k fs') (hfs : fs.Plain)
    (hk : ∀ target, k ≠ .link target) : fs'.Plain := by
  intro l target hl
  by_cases hloc : l = loc
  · rw [hloc, h.view_self] at hl
    exact hk target (Option.some.inj hl)
  · rw [h.view_of_ne hloc] at hl
    exact hfs l target hl

/-- writing puts a file at the place of the path, where there was nothing or a file -/
theorem edit_at_place {fs fs' : FileStore} {p : Path} {change : List UInt8 → List UInt8} (hfs : fs.Plain)
    (h : fs.edit p change = .ok fs') :
    fs'.Plain ∧ (∃ c e, fs' = fs.put (fs.place p) (.file c e)) ∧
      (∃ c, fs.Placed (fs.place p) (.file c) fs') ∧
      (fs.root.view (fs.place p) = none ∨ ∃ old, fs.root.view (fs.place p) = some (.file old)) := by
  obtain ⟨r, c, e, hr, rfl, hplaced, hold⟩ := edit_eq_ok h
  rw [hr.loc_eq hfs] at hplaced hold ⊢
  exact ⟨hplaced.plain hfs (by simp), ⟨c, e, rfl⟩, ⟨c, hplaced⟩, hold.imp (·.1) fun ⟨old, h, _⟩ => ⟨old, h⟩⟩

/-! ## Making directories -/

/-- without links, a free name is one that the steps ask for -/
theorem Reach.mem_of_vacant {v : Location → Option Kind} (hv : ∀ l target, v l ≠ some (.link target))
    {purpose : Purpose} {links : Nat} {loc d : Location} {rest : List Step} {n : Name}
    (h : Reach v purpose links loc rest (.vacant d n)) : .down n ∈ rest := by
  generalize hr : Place.vacant d n = r at h
  induction h with
  | done => cases hr
  | here _ ih => exact List.mem_cons_of_mem _ (ih hr)
  | slash _ ih => exact List.mem_cons_of_mem _ (ih hr)
  | up _ ih => exact List.mem_cons_of_mem _ (ih hr)
  | enter _ _ _ _ ih => exact List.mem_cons_of_mem _ (ih hr)
  | file => cases hr
  | free =>
    obtain ⟨-, rfl⟩ := Place.vacant.inj hr
    exact List.mem_singleton_self _
  | stop => cases hr
  | follow _ _ hlink => exact absurd hlink (hv _ _)

/-- all that is new in a store is directories with names from a list -/
def OnlyNewDirs (names : List Name) (fs fs' : FileStore) : Prop :=
  ∀ l, fs'.root.view l ≠ fs.root.view l →
    fs.root.view l = none ∧ fs'.root.view l = some .dir ∧ ∃ n ∈ names, l.getLast? = some n

theorem OnlyNewDirs.refl (names : List Name) (fs : FileStore) : OnlyNewDirs names fs fs := fun _ h => absurd rfl h

theorem OnlyNewDirs.trans {names : List Name} {fs fs' fs'' : FileStore} (h : OnlyNewDirs names fs fs')
    (h' : OnlyNewDirs names fs' fs'') : OnlyNewDirs names fs fs'' := by
  intro l hl
  by_cases hl' : fs'.root.view l = fs.root.view l
  · rw [← hl'] at hl ⊢
    exact h' l hl
  · obtain ⟨hnone, hd, hn⟩ := h l hl'
    refine ⟨hnone, ?_, hn⟩
    by_contra hne
    obtain ⟨hnone', -⟩ := h' l (fun heq => hne (heq.trans hd))
    rw [hd] at hnone'
    cases hnone'

theorem OnlyNewDirs.mono {names names' : List Name} (hsub : names ⊆ names') {fs fs' : FileStore}
    (h : OnlyNewDirs names fs fs') : OnlyNewDirs names' fs fs' := by
  intro l hl
  obtain ⟨hnone, hd, n, hn, hlast⟩ := h l hl
  exact ⟨hnone, hd, n, hsub hn, hlast⟩

theorem makeDir_onlyNewDirs {fs fs' : FileStore} {p : Path} (hfs : fs.Plain) (h : fs.makeDir p = .ok fs') :
    fs'.Plain ∧ OnlyNewDirs (segmentsOf p) fs fs' := by
  obtain ⟨d, n, hr, hplaced, -⟩ := makeDir_eq_ok h
  refine ⟨hplaced.plain hfs (by simp), fun l hl => ?_⟩
  obtain rfl : l = d ++ [n] := by
    by_contra hne
    exact hl (hplaced.view_of_ne hne)
  refine ⟨hr.reach.vacant.2, hplaced.view_self, n, ?_, by simp⟩
  rw [← segmentsOf_dropSlashes]
  exact (down_mem_stepsOf (hr.reach.mem_of_vacant hfs)).1

/-- making a directory with those above it makes directories with names from its path, and nothing else -/
theorem Makes.onlyNewDirs {fs fs' : FileStore} {p : Path} {ok : Bool} (h : fs.Makes p ok fs') (hfs : fs.Plain) :
    fs'.Plain ∧ OnlyNewDirs (segmentsOf p) fs fs' := by
  induction h with
  | empty => exact ⟨hfs, .refl _ _⟩
  | made h => exact makeDir_onlyNewDirs hfs h
  | there => exact ⟨hfs, .refl _ _⟩
  | failed => exact ⟨hfs, .refl _ _⟩
  | aboveMade hq _ h ih =>
    obtain ⟨hplain, hnew⟩ := ih
    obtain ⟨hplain', hnew'⟩ := makeDir_onlyNewDirs hplain h
    exact ⟨hplain', (hnew.mono (Path.segmentsOf_parent_subset hq)).trans hnew'⟩
  | aboveThere hq _ _ _ ih => exact ⟨ih.1, ih.2.mono (Path.segmentsOf_parent_subset hq)⟩
  | aboveFailed hq _ ih => exact ⟨ih.1, ih.2.mono (Path.segmentsOf_parent_subset hq)⟩

end FileStore

end Benchwork
