/-
What detection depends on.

How a repository is built is read off the descriptors in its tree: the files with a certain name, in the order of a walk
(`filesCalled`). A file with another name, put anywhere in the tree, leaves these lists as they are
(`filesCalled_set_file`). So detection gives the same answer before and after it (`systemOf_set_file`): markers and
ignore lists do not change how a repository is built.
-/
import Benchwork.Proofs.Build.Closest
import Benchwork.Proofs.Files.Plain

namespace Benchwork

open Benchwork.Text

namespace Node

/-! ## Files with a name -/

/-- a file called `name`, met in the walk of a node that is itself called `own` -/
def isCalled (own name : Name) : Location × Kind → Bool
  | (loc, .file _) => loc.getLast?.getD own = name
  | _ => false

/-- where the files called `name` are, in the order of a walk -/
def filesCalled (own name : Name) (x : Node) : List Location := (x.walk.filter (isCalled own name)).map (·.1)

theorem isCalled_cons (own name k : Name) (loc : Location) (kind : Kind) :
    isCalled own name (k :: loc, kind) = isCalled k name (loc, kind) := by
  cases kind <;> simp [isCalled, List.getLast?_cons]

theorem filesCalled_file (own name : Name) (content : List UInt8) (executable : Bool) :
    filesCalled own name (.file content executable) = if own = name then [[]] else [] := by
  rw [filesCalled, walk]
  split_ifs with h <;> simp [isCalled, h]

theorem filesCalled_dir (own name : Name) (entries : List (Name × Node)) :
    filesCalled own name (.dir entries) = entries.flatMap fun e => (filesCalled e.1 name e.2).map (e.1 :: ·) := by
  have hwalk : ∀ entries : List (Name × Node), ((walkEntries entries).filter (isCalled own name)).map (·.1) =
      entries.flatMap fun e => (filesCalled e.1 name e.2).map (e.1 :: ·) := by
    intro entries
    induction entries with
    | nil => simp [walkEntries]
    | cons e entries ih =>
      have hentry : ((walkEntry e).filter (isCalled own name)).map (·.1) =
          (filesCalled e.1 name e.2).map (e.1 :: ·) := by
        obtain ⟨k, x⟩ := e
        simp [walkEntry, filesCalled, List.filter_map, Function.comp_def, isCalled_cons]
      rw [walkEntries, List.filter_append, List.map_append, ih, hentry, List.flatMap_cons]
  rw [filesCalled, walk, List.filter_cons_of_neg (by simp [isCalled])]
  exact hwalk entries

/-- a file with another name, put into a directory in place of nothing or of a file -/
theorem filesCalled_put_file {own name k : Name} (hk : k ≠ name) {entries : List (Name × Node)}
    (hold : ∀ y, entries.lookup k = some y → ∃ c e, y = .file c e) (content : List UInt8) (executable : Bool) :
    filesCalled own name (.dir (Ordered.put k (.file content executable) entries)) =
      filesCalled own name (.dir entries) := by
  have hfile : ∀ c e, filesCalled k name (.file c e) = [] := fun c e => by rw [filesCalled_file, if_neg hk]
  rw [filesCalled_dir, filesCalled_dir]
  induction entries with
  | nil => simp [Ordered.put, hfile]
  | cons entry entries ih =>
    obtain ⟨m, y⟩ := entry
    rw [Ordered.put]
    split_ifs with hm hlt
    · subst hm
      obtain ⟨c, e, rfl⟩ := hold y (by simp)
      rw [List.flatMap_cons, List.flatMap_cons, hfile, hfile]
    · simp [List.flatMap_cons, hfile]
    · rw [List.flatMap_cons, List.flatMap_cons, ih fun z hz => hold z (by rwa [Ordered.lookup_cons_eq, if_neg hm])]

/-- a file with another name, put into a tree or at most one level below its root -/
theorem filesCalled_set_file {own name : Name} {x : Node} {t : Location} (ht : t.length ≤ 1)
    (hname : t.getLast? ≠ some name) (hold : ∀ k, x.view t = some k → ∃ c, k = .file c) (content : List UInt8)
    (executable : Bool) : filesCalled own name (x.set t (.file content executable)) = filesCalled own name x := by
  match t, ht with
  | [], _ =>
    obtain ⟨c, hc⟩ := hold x.kind rfl
    cases x with
    | file c e => rw [set, filesCalled_file, filesCalled_file]
    | link target => cases hc
    | dir entries => cases hc
  | [k], _ =>
    cases x with
    | file c e => rw [set_of_ne_dir (by simp [kind]) (by simp)]
    | link target => rw [set_of_ne_dir (by simp [kind]) (by simp)]
    | dir entries =>
      have hk : k ≠ name := by simpa using hname
      refine filesCalled_put_file hk (fun y hy => ?_) content executable
      obtain ⟨c, hc⟩ := hold y.kind (by simp [view_cons, child?, hy])
      cases y with
      | file c e => exact ⟨c, e, rfl⟩
      | link target => cases hc
      | dir entries => cases hc

end Node

namespace Build

open FileStore

/-! ## Build systems -/

/-- the name under which a walk meets its root -/
def rootName (root : Path) : Name := root.fileName?.getD root.bytes

/-- the files called `name` that are closest to the root of a tree -/
def closest (root : Path) (name : String) (x : Node) : List Path :=
  shallowest ((x.filesCalled (rootName root) (Utf8.encode name)).map (Descriptor.pathFrom root))

def systemOf (root : Path) (x : Node) : BuildSystem :=
  if closest root Descriptor.maven x ≠ [] then .maven (closest root Descriptor.maven x)
  else if closest root Descriptor.gradle x ≠ [] then .gradle (closest root Descriptor.gradle x)
  else .unknown

theorem called_walk (root : Path) (name : String) (x : Node) :
    Descriptor.called root name x.walk =
      (x.filesCalled (rootName root) (Utf8.encode name)).map (Descriptor.pathFrom root) := by
  have hmatch : Descriptor.isMatch root (Utf8.encode name) = Node.isCalled (rootName root) (Utf8.encode name) := by
    funext ⟨loc, kind⟩
    cases kind <;> rfl
  rw [Descriptor.called, hmatch, Node.filesCalled, List.map_map]
  rfl

theorem systemMet_walk (root : Path) (x : Node) : systemMet root x.walk = systemOf root x := by
  have hclosest : ∀ name, closest root name x = nearest (Descriptor.called root name x.walk) := by
    intro name
    rw [closest, shallowest_eq_nearest, called_walk]
  simp only [systemOf, systemMet, hclosest, ne_eq, nearest_eq_nil]

/-- what is detected is read off the tree at the place of the path -/
theorem systemOf_of_detect {fs : FileStore} (hfs : fs.Plain) {root : Path} {system : BuildSystem}
    (h : BuildSystem.detect fs root = .ok system) :
    fs.Leads .target root (.found (fs.place root)) ∧
      ∃ x, fs.root.get? (fs.place root) = some x ∧ systemOf root x = system := by
  rw [detect_eq_map] at h
  cases hwalk : Descriptor.walk fs root with
  | error err =>
    rw [hwalk] at h
    cases h
  | ok met =>
    rw [hwalk] at h
    obtain rfl : systemMet root met = system := Except.ok.inj h
    have hscene := (Descriptor.walk_eq_ok.1 hwalk).1
    rw [Descriptor.scene] at hscene
    cases hx : fs.node .itself root with
    | error f =>
      rw [hx] at hscene
      cases hscene
    | ok x =>
      rw [hx] at hscene
      obtain ⟨L, hL, hget⟩ := node_eq_ok.1 hx
      obtain rfl : L = fs.place root := hL.loc_eq hfs
      have hview : fs.root.view (fs.place root) = some x.kind := Node.view_eq_some.2 ⟨x, hget, rfl⟩
      cases x with
      | link target => exact absurd hview (hfs _ target)
      | file c e =>
        obtain rfl := Except.ok.inj hscene
        exact ⟨hL.retrace (Extends.refl fs).toKeepsWays (.inr ⟨c, hview⟩), _, hget, (systemMet_walk root _).symm⟩
      | dir entries =>
        obtain rfl := Except.ok.inj hscene
        exact ⟨hL.retrace (Extends.refl fs).toKeepsWays (.inl hview), _, hget, (systemMet_walk root _).symm⟩

def descriptorNames : List Name := [Utf8.encode Descriptor.maven, Utf8.encode Descriptor.gradle]

theorem systemOf_set_file {x : Node} {t : Location} (ht : t.length ≤ 1)
    (hname : ∀ n ∈ descriptorNames, t.getLast? ≠ some n)
    (hold : ∀ k, x.view t = some k → ∃ c, k = .file c) (root : Path) (content : List UInt8) (executable : Bool) :
    systemOf root (x.set t (.file content executable)) = systemOf root x := by
  have hclosest : ∀ name, Utf8.encode name ∈ descriptorNames →
      closest root name (x.set t (.file content executable)) = closest root name x := by
    intro name hmem
    rw [closest, closest, Node.filesCalled_set_file ht (hname _ hmem) hold]
  rw [systemOf, systemOf, hclosest Descriptor.maven (by simp [descriptorNames]),
    hclosest Descriptor.gradle (by simp [descriptorNames])]

/-- writing a file that is no descriptor, not far below a node, leaves its build system as it is -/
theorem edit_systemOf {fs fs' : FileStore} {p : Path} {change : List UInt8 → List UInt8} (hfs : fs.Plain)
    (h : fs.edit p change = .ok fs') {L : Location} {x : Node} (hx : fs.root.get? L = some x)
    (hlen : (fs.place p).length ≤ L.length + 1) (hname : ∀ n ∈ descriptorNames, (fs.place p).getLast? ≠ some n) :
    ∃ x', fs'.root.get? L = some x' ∧ ∀ root, systemOf root x' = systemOf root x := by
  obtain ⟨-, ⟨c, e, rfl⟩, -, hold⟩ := edit_at_place hfs h
  by_cases hbelow : L <+: fs.place p
  · obtain ⟨t, ht⟩ := hbelow
    rw [← ht] at hlen hname hold ⊢
    refine ⟨x.set t (.file c e), Node.get?_set_append hx t _, fun root => systemOf_set_file ?_ ?_ ?_ root c e⟩
    · rw [List.length_append] at hlen
      omega
    · intro n hn hlast
      refine hname n hn ?_
      rw [List.getLast?_append, hlast]
      rfl
    · intro k hk
      have hview : fs.root.view (L ++ t) = some k := by rw [Node.view_append, hx]; exact hk
      rcases hold with hnone | ⟨old, hfile⟩
      · rw [hview] at hnone
        cases hnone
      · exact ⟨old, Option.some.inj (hview.symm.trans hfile)⟩
  · refine ⟨x, ?_, fun _ => rfl⟩
    rw [put, Node.get?_set_of_apart _ hbelow, hx]
    -- a file or a free name has nothing below it
    rintro ⟨t, rfl⟩
    have ht : t ≠ [] := by
      rintro rfl
      exact hbelow (by rw [List.append_nil])
    have hnone : fs.root.view (fs.place p ++ t) = none := by
      refine Node.view_append_eq_none ?_ ht
      rcases hold with hnone | ⟨old, hfile⟩ <;> simp [*]
    rw [Node.view_eq_none.1 hnone] at hx
    cases hx

end Build

end Benchwork
