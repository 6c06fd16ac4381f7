/-
One entry of a directory, and what is below it.

Changes of two entries of one directory can be made in either order (`amend_comm`). A path that leads through a
directory to one of its entries, and down from there, is looked up with the same result, faults included, in every store
that has the same tree at that entry, as long as there is no link in it (`lookup_below`): whatever else is in the store
makes no difference. `Site` is such a directory, and `Alike` stores have the same tree at one of its entries; what is
read off that tree is the same in both, and a file that is written there makes the same change in both (`Alike.edit`).
-/
import Benchwork.Proofs.Files.Change

namespace Benchwork

namespace Node

/-! ## Changes of one entry -/

/-- a change below a node is a change of that node -/
theorem set_append {x z : Node} {l : Location} (h : x.get? l = some z) (t : Location) (y : Node) :
    x.set (l ++ t) y = x.set l (z.set t y) := by
  induction l generalizing x with
  | nil =>
    obtain rfl := Option.some.inj h
    rfl
  | cons n l ih =>
    cases x with
    | file content executable => simp [get?, child?] at h
    | link target => simp [get?, child?] at h
    | dir entries =>
      obtain ⟨x₁, hx₁, h⟩ := Option.bind_eq_some_iff.1 h
      rw [List.cons_append, set_cons_of_child hx₁, set_cons_of_child hx₁, ih h]

theorem remove_snoc {x z : Node} {l : Location} (h : x.get? l = some z) (n : Name) :
    x.remove (l ++ [n]) = x.set l (z.remove [n]) := by
  induction l generalizing x with
  | nil =>
    obtain rfl := Option.some.inj h
    rfl
  | cons m l ih =>
    cases x with
    | file content executable => simp [get?, child?] at h
    | link target => simp [get?, child?] at h
    | dir entries =>
      obtain ⟨x₁, hx₁, h⟩ := Option.bind_eq_some_iff.1 h
      have hx₁ : entries.lookup m = some x₁ := hx₁
      have hcons : (Node.dir entries).remove (m :: (l ++ [n])) =
          .dir (Ordered.put m (x₁.remove (l ++ [n])) entries) := by
        cases l <;> simp [remove, hx₁]
      rw [List.cons_append, hcons, set_cons_of_child hx₁, ih h]

theorem set_set {x z : Node} {l : Location} (h : x.get? l = some z) (y y' : Node) :
    (x.set l y).set l y' = x.set l y' := by
  induction l generalizing x with
  | nil => rfl
  | cons n l ih =>
    cases x with
    | file content executable => simp [get?, child?] at h
    | link target => simp [get?, child?] at h
    | dir entries =>
      obtain ⟨x₁, hx₁, h⟩ := Option.bind_eq_some_iff.1 h
      rw [set_cons_of_child hx₁, set_cons_of_child hx₁, set_cons_of_child (Ordered.lookup_put_self _ _ _), ih h,
        Ordered.put_put]

/-- puts a node in a place, or takes away what is there -/
def replace (x : Node) (loc : Location) : Option Node → Node
  | some y => x.set loc y
  | none => x.remove loc

/-- makes several changes in one place, one after the other -/
def amend (x : Node) (loc : Location) (cs : List (Option Node)) : Node := cs.foldl (·.replace loc ·) x

theorem amend_append (x : Node) (loc : Location) (cs ds : List (Option Node)) :
    x.amend loc (cs ++ ds) = (x.amend loc cs).amend loc ds :=
  List.foldl_append

/-- a change of an entry is one of the directory -/
theorem replace_snoc {x : Node} {R : Location} {es : List (Name × Node)} (h : x.get? R = some (.dir es)) (n : Name)
    (c : Option Node) : x.replace (R ++ [n]) c = x.set R (.dir (Ordered.replace n c es)) := by
  cases c with
  | none => exact remove_snoc h n
  | some y => exact set_append h [n] y

theorem get?_replace_dir {x : Node} {R : Location} {es : List (Name × Node)} (h : x.get? R = some (.dir es)) (n : Name)
    (c : Option Node) : (x.replace (R ++ [n]) c).get? R = some (.dir (Ordered.replace n c es)) := by
  have hset := get?_set_append h [] (.dir (Ordered.replace n c es))
  rw [List.append_nil] at hset
  rw [replace_snoc h]
  exact hset

theorem get?_replace {x : Node} {R : Location} (h : x.view R = some .dir) (n m : Name) (c : Option Node) :
    (x.replace (R ++ [n]) c).get? (R ++ [m]) = if m = n then c else x.get? (R ++ [m]) := by
  obtain ⟨y, hy, hk⟩ := view_eq_some.1 h
  obtain ⟨es, rfl⟩ := kind_eq_dir.1 hk
  rw [get?_snoc, get?_replace_dir hy, get?_snoc, hy]
  exact Ordered.lookup_replace n m c es

theorem view_replace_dir {x : Node} {R : Location} (h : x.view R = some .dir) (n : Name) (c : Option Node) :
    (x.replace (R ++ [n]) c).view R = some .dir := by
  obtain ⟨y, hy, hk⟩ := view_eq_some.1 h
  obtain ⟨es, rfl⟩ := kind_eq_dir.1 hk
  exact view_eq_some.2 ⟨_, get?_replace_dir hy n c, rfl⟩

/-- changes of an entry leave the others as they are -/
theorem get?_amend_of_ne {x : Node} {R : Location} (h : x.view R = some .dir) {n m : Name} (hm : m ≠ n)
    (cs : List (Option Node)) : (x.amend (R ++ [n]) cs).get? (R ++ [m]) = x.get? (R ++ [m]) := by
  induction cs generalizing x with
  | nil => rfl
  | cons c cs ih => exact (ih (view_replace_dir h n c)).trans ((get?_replace h n m c).trans (if_neg hm))

/-- what an entry is after changes does not depend on the rest -/
theorem get?_amend_congr {x y : Node} {R : Location} {n : Name} (hx : x.view R = some .dir) (hy : y.view R = some .dir)
    (h : y.get? (R ++ [n]) = x.get? (R ++ [n])) (cs : List (Option Node)) :
    (y.amend (R ++ [n]) cs).get? (R ++ [n]) = (x.amend (R ++ [n]) cs).get? (R ++ [n]) := by
  induction cs generalizing x y with
  | nil => exact h
  | cons c cs ih =>
    refine ih (view_replace_dir hx n c) (view_replace_dir hy n c) ?_
    rw [get?_replace hx, get?_replace hy, if_pos rfl, if_pos rfl]

def Tidy (x : Node) (R : Location) : Prop := ∃ es, x.get? R = some (.dir es) ∧ Ordered.Sorted es

theorem Tidy.replace {x : Node} {R : Location} (h : x.Tidy R) (n : Name) (c : Option Node) :
    (x.replace (R ++ [n]) c).Tidy R := by
  obtain ⟨es, hes, hsorted⟩ := h
  exact ⟨_, get?_replace_dir hes n c, hsorted.replace n c⟩

theorem replace_comm {x : Node} {R : Location} (h : x.Tidy R) {n m : Name} (hnm : n ≠ m) (c d : Option Node) :
    (x.replace (R ++ [n]) c).replace (R ++ [m]) d = (x.replace (R ++ [m]) d).replace (R ++ [n]) c := by
  obtain ⟨es, hes, hsorted⟩ := h
  have htwice : ∀ (n m : Name) (c d : Option Node), (x.replace (R ++ [n]) c).replace (R ++ [m]) d =
      x.set R (.dir (Ordered.replace m d (Ordered.replace n c es))) := by
    intro n m c d
    rw [replace_snoc (get?_replace_dir hes n c), replace_snoc hes, set_set hes]
  rw [htwice, htwice, Ordered.replace_comm hsorted hnm]

/-- changes of two entries can be made in either order -/
theorem amend_comm {x : Node} {R : Location} (h : x.Tidy R) {n m : Name} (hnm : n ≠ m) (cs ds : List (Option Node)) :
    (x.amend (R ++ [n]) cs).amend (R ++ [m]) ds = (x.amend (R ++ [m]) ds).amend (R ++ [n]) cs := by
  have hone : ∀ {x : Node}, x.Tidy R → ∀ (c : Option Node) (ds : List (Option Node)),
      (x.replace (R ++ [n]) c).amend (R ++ [m]) ds = (x.amend (R ++ [m]) ds).replace (R ++ [n]) c := by
    intro x hx c ds
    induction ds generalizing x with
    | nil => rfl
    | cons d ds ih =>
      change ((x.replace (R ++ [n]) c).replace (R ++ [m]) d).amend (R ++ [m]) ds = _
      rw [replace_comm hx hnm, ih (hx.replace m d)]
      rfl
  induction cs generalizing x with
  | nil => rfl
  | cons c cs ih =>
    change ((x.replace (R ++ [n]) c).amend (R ++ [n]) cs).amend (R ++ [m]) ds = _
    rw [ih (h.replace n c), hone h]
    rfl

/-! ## Trees without links -/

/-- nothing in the tree is a link, and what is in it has ordinary names -/
def Proper (x : Node) : Prop := ∀ p ∈ x.walk, (∀ target, p.2 ≠ .link target) ∧ ∀ n ∈ p.1, Path.IsOrdinary n

instance (k : Kind) : Decidable (∀ target, k ≠ .link target) :=
  match k with
  | .file _ => isTrue (by simp)
  | .link target => isFalse fun h => h target rfl
  | .dir => isTrue (by simp)

instance (x : Node) : Decidable x.Proper := inferInstanceAs (Decidable (∀ p ∈ x.walk, _ ∧ _))

theorem Proper.view {x : Node} (h : x.Proper) (l : Location) (target : Path) : x.view l ≠ some (.link target) :=
  fun hv => (h _ (mem_walk_of_view hv)).1 target rfl

theorem mem_walkEntries {es : List (Name × Node)} {p : Location × Kind} :
    p ∈ walkEntries es ↔ ∃ e ∈ es, p ∈ walkEntry e := by
  induction es with
  | nil => simp [walkEntries]
  | cons e es ih => simp [walkEntries, ih]

/-- a file with an ordinary name may be put into the tree -/
theorem Proper.set_file {x : Node} (h : x.Proper) {m : Name} (hm : Path.IsOrdinary m) (content : List UInt8)
    (executable : Bool) : (x.set [m] (.file content executable)).Proper := by
  cases x with
  | file c e => exact h
  | link target => exact h
  | dir es =>
    intro p hp
    rw [Proper, walk] at h
    rw [set, walk] at hp
    rcases List.mem_cons.1 hp with rfl | hp
    · exact h _ List.mem_cons_self
    · obtain ⟨e, he, hp⟩ := mem_walkEntries.1 hp
      rcases Ordered.mem_put he with rfl | he
      · obtain rfl : p = ([m], .file content) := by simpa [walkEntry, walk] using hp
        exact ⟨by simp, by simpa using hm⟩
      · exact h p (List.mem_cons_of_mem _ (mem_walkEntries.2 ⟨e, he, hp⟩))

end Node

namespace FileStore

/-! ## Looking up below an entry -/

/-- what leads to a directory leaves a trail to it; the steps that are left go on from there -/
theorem trace_through {root : Node} {links : Nat} {loc R : Location} {s : List Step} (purpose : Purpose)
    (rest : List Step) (h : Reach root.view .target links loc s (.found R)) (hd : root.view R = some .dir)
    (hrest : ∃ n, .down n ∈ rest) {t : Trail} (ht : Trail.Along root t) (hl : t.location = loc) :
    ∃ follow t', Trail.Along root t' ∧ t'.location = R ∧
      trace root purpose links t (s ++ rest) = traceSteps root purpose follow t' rest := by
  have hbar : ∀ s, isBarred purpose (s ++ rest) = false := by
    obtain ⟨n, hn⟩ := hrest
    intro s
    rw [isBarred, decide_eq_false_iff_not]
    rintro ⟨-, -, hall⟩
    simpa using List.all_eq_true.1 hall _ (List.mem_append_right s hn)
  have hne : ∀ s, s ++ rest ≠ [] := by
    rintro s hnil
    obtain ⟨n, hn⟩ := hrest
    rw [(List.append_eq_nil_iff.1 hnil).2] at hn
    cases hn
  generalize hr : Place.found R = r at h
  induction h generalizing t with
  | @done links loc =>
    obtain rfl := Place.found.inj hr
    obtain ⟨follow, hk⟩ := trace_eq root purpose links
    exact ⟨follow, t, ht, hl, by rw [hk]; rfl⟩
  | @here links loc s r _ ih =>
    obtain ⟨follow, hk⟩ := trace_eq root purpose links
    rw [hk] at ih ⊢
    exact ih ht hl hr
  | @slash links loc s r _ ih =>
    obtain ⟨follow, hk⟩ := trace_eq root purpose links
    rw [hk] at ih ⊢
    exact ih ht hl hr
  | @up links loc s r _ ih =>
    obtain ⟨follow, hk⟩ := trace_eq root purpose links
    rw [hk] at ih ⊢
    exact ih ht.tail (by rw [Trail.location_tail, hl]) hr
  | @enter links loc n s r _ hn hv _ ih =>
    subst hl
    obtain ⟨follow, hk⟩ := trace_eq root purpose links
    obtain ⟨entries, hc⟩ := ht.child_eq_dir hv
    rw [hk] at ih ⊢
    rw [List.cons_append, traceSteps_down (hbar s) hn, hc]
    exact ih (t := (n, .dir entries) :: t) ⟨ht, hc⟩ (Trail.location_cons _ _ _) hr
  | file _ hv =>
    obtain rfl := Place.found.inj hr
    rw [hd] at hv
    cases hv
  | free => cases hr
  | stop hp => cases hp
  | @follow links loc n target s r _ hn hv _ h2 _ ih =>
    subst hl
    have hc := ht.child_eq_link hv
    rw [trace, List.cons_append, traceSteps_down (hbar s) hn, hc]
    simp only [hne s, false_and, h2, if_false]
    rw [← List.append_assoc]
    exact ih (by split_ifs; exacts [trivial, ht]) (by split_ifs <;> rfl) hr

/-- steps down from a directory depend on nothing but the tree at the first of them, if no link is in it -/
theorem traceSteps_downs {root root' : Node} {purpose : Purpose}
    {follow follow' : Trail → List Step → Except Fault Spot} {t u : Trail} (hloc : u.location = t.location)
    (hd : (Trail.last root t).isDir = true) (hd' : (Trail.last root' u).isDir = true) {n : Name} {ms : List Name}
    (hsame : (Trail.last root' u).child? n = (Trail.last root t).child? n)
    (hlink : ∀ x l target, (Trail.last root t).child? n = some x → x.view l ≠ some (.link target)) :
    traceSteps root' purpose follow' u ((n :: ms).map .down) =
      traceSteps root purpose follow t ((n :: ms).map .down) := by
  induction ms generalizing t u n with
  | nil =>
    by_cases hn : n.length ≤ nameLimit
    · simp only [List.map_cons, List.map_nil]
      rw [traceSteps_down (isBarred_nil _) hn, traceSteps_down (isBarred_nil _) hn, hsame, hd, hd', hloc]
      cases hc : (Trail.last root t).child? n with
      | none => rfl
      | some x =>
        cases x with
        | file content executable => rfl
        | dir entries => simp [traceSteps, hloc, Trail.last]
        | link target => exact absurd rfl (hlink _ [] target hc)
    · simp [traceSteps, isBarred_nil, Nat.lt_of_not_le hn]
  | cons m ms ih =>
    have hbar : isBarred purpose ((m :: ms).map .down) = false := by simp [isBarred]
    by_cases hn : n.length ≤ nameLimit
    · rw [List.map_cons, traceSteps_down hbar hn, traceSteps_down hbar hn, hsame, hd, hd', hloc]
      cases hc : (Trail.last root t).child? n with
      | none => rfl
      | some x =>
        cases x with
        | file content executable => rfl
        | dir entries =>
          refine ih (t := (n, .dir entries) :: t) (u := (n, .dir entries) :: u) ?_ rfl rfl rfl ?_
          · rw [Trail.location_cons, Trail.location_cons, hloc]
          · intro y l target hy
            have hview := hlink _ (m :: l) target hc
            rwa [Node.view_cons, show (Node.dir entries).child? m = some y from hy] at hview
        | link target => exact absurd rfl (hlink _ [] target hc)
    · simp [traceSteps, Nat.lt_of_not_le hn]

/-- a path down from an entry of a directory is looked up in the tree of that entry -/
theorem lookup_below {fs gs : FileStore} {p q : Path} {R : Location} {n : Name} (ms : List Name) (hfs : fs.Enters p R)
    (hgs : gs.Enters p R) (hstart : fs.start q = fs.start p) (hstart' : gs.start q = gs.start p)
    (hq : stepsOf q = (segmentsOf p).map Step.ofSegment ++ (n :: ms).map .down)
    (hsame : gs.root.get? (R ++ [n]) = fs.root.get? (R ++ [n]))
    (hlink : ∀ l target, fs.root.view (R ++ n :: l) ≠ some (.link target)) (purpose : Purpose) :
    gs.lookup purpose q = fs.lookup purpose q := by
  have hthrough : ∀ {fs : FileStore}, fs.Enters p R → fs.start q = fs.start p → ∃ t follow t',
      Trail.along [] fs.root (fs.start q) = some t ∧ Trail.Along fs.root t' ∧ t'.location = R ∧
        trace fs.root purpose linkLimit t (stepsOf q) =
          traceSteps fs.root purpose follow t' ((n :: ms).map .down) := by
    intro fs h hs
    obtain ⟨t, ht⟩ := Option.isSome_iff_exists.1 (Trail.isSome_along (t := []).2 h.start)
    obtain ⟨halong, hloc⟩ := Trail.along_along (t := []) trivial ht
    obtain ⟨follow, t', halong', hloc', htrace⟩ :=
      trace_through purpose ((n :: ms).map .down) h.reach h.dir ⟨n, by simp⟩ halong hloc
    exact ⟨t, follow, t', by rw [hs]; exact ht, halong', hloc', by rw [hq]; exact htrace⟩
  obtain ⟨t, follow, u, ht, hu, huR, htrace⟩ := hthrough hfs hstart
  obtain ⟨t', follow', u', ht', hu', huR', htrace'⟩ := hthrough hgs hstart'
  have hlast : ∀ {fs : FileStore} {u : Trail}, fs.Enters p R → Trail.Along fs.root u → u.location = R →
      (Trail.last fs.root u).isDir = true ∧ fs.root.get? (R ++ [n]) = (Trail.last fs.root u).child? n := by
    rintro fs u h hu rfl
    refine ⟨Node.isDir_eq_true.2 ?_, ?_⟩
    · exact Option.some.inj (hu.view_location.symm.trans h.dir)
    · rw [Node.get?_snoc, hu.get?_location]
      rfl
  obtain ⟨hd, hchild⟩ := hlast hfs hu huR
  obtain ⟨hd', hchild'⟩ := hlast hgs hu' huR'
  have hsteps : trace gs.root purpose linkLimit t' (stepsOf q) = trace fs.root purpose linkLimit t (stepsOf q) := by
    rw [htrace, htrace']
    refine traceSteps_downs (huR'.trans huR.symm) hd hd' (by rw [← hchild, ← hchild', hsame]) ?_
    intro x l target hx
    have hview := hlink l target
    rwa [List.append_cons, Node.view_append, hchild, hx] at hview
  rw [lookup, lookup, ht, ht']
  dsimp only
  rw [hsteps]

/-- where a file is written that a path leads to, and what it is then -/
def Spot.written (change : List UInt8 → List UInt8) : Spot → Except Fault (Location × List UInt8 × Bool)
  | .found loc (.file content executable) => .ok (loc, change content, executable)
  | .found _ (.dir _) => .error .isDirectory
  | .found _ (.link _) => .error .tooManyLinks
  | .vacant dir n => .ok (dir ++ [n], change [], false)

theorem edit_eq (fs : FileStore) (p : Path) (change : List UInt8 → List UInt8) :
    fs.edit p change =
      (fs.lookup .writing p >>= Spot.written change).map fun (loc, content, executable) =>
        fs.put loc (.file content executable) := by
  rw [edit]
  cases fs.lookup .writing p with
  | error f => rfl
  | ok spot =>
    cases spot with
    | vacant dir n => rfl
    | found loc x => cases x <;> rfl

theorem Place.fst_of_written {root : Node} {r : Place} {change : List UInt8 → List UInt8}
    {file : Location × List UInt8 × Bool} (h : (r.spot root).written change = .ok file) : file.1 = r.loc := by
  cases r with
  | vacant dir n =>
    obtain rfl := Except.ok.inj h
    rfl
  | found loc =>
    rw [Place.spot] at h
    cases hx : (root.get? loc).getD .empty with
    | file content executable =>
      rw [hx] at h
      obtain rfl := Except.ok.inj h
      rfl
    | link target => rw [hx] at h; cases h
    | dir entries => rw [hx] at h; cases h

/-! ## Stores with the same tree at an entry -/

theorem ext_of_root {fs gs : FileStore} (hroot : fs.root = gs.root) (hcwd : fs.cwd = gs.cwd) : fs = gs := by
  cases fs
  cases gs
  exact congrArg₂ FileStore.mk hroot hcwd

/-- a directory: its path, from where that is looked up, and where it leads -/
structure Site where
  path : Path
  cwd : Location
  loc : Location

namespace Site

def pathOf (s : Site) (n : Name) : Path := s.path.join ⟨n⟩

def entry (s : Site) (n : Name) : Location := s.loc ++ [n]

/-- the directory is where it should be, and so is what is in the tree of an entry -/
structure Holds (s : Site) (n : Name) (fs : FileStore) : Prop where
  cwd : fs.cwd = s.cwd
  enters : fs.Enters s.path s.loc
  proper : ∀ x, fs.root.get? (s.entry n) = some x → x.Proper

/-- two stores with the same tree at an entry -/
structure Alike (s : Site) (n : Name) (fs gs : FileStore) : Prop where
  left : s.Holds n fs
  right : s.Holds n gs
  same : gs.root.get? (s.entry n) = fs.root.get? (s.entry n)

variable {s : Site} {n m : Name} {fs gs : FileStore}

theorem Holds.linkless (h : s.Holds n fs) (l : Location) (target : Path) :
    fs.root.view (s.loc ++ n :: l) ≠ some (.link target) := by
  rw [List.append_cons, Node.view_append]
  cases hx : fs.root.get? (s.loc ++ [n]) with
  | none => simp
  | some x => exact (h.proper x hx).view l target

theorem Alike.lookup_pathOf (h : s.Alike n fs gs) (hn : Path.IsOrdinary n) (purpose : Purpose) :
    gs.lookup purpose (s.pathOf n) = fs.lookup purpose (s.pathOf n) :=
  lookup_below [] h.left.enters h.right.enters (start_join hn.isAbsolute _) (start_join hn.isAbsolute _)
    (stepsOf_join_ordinary hn) h.same h.left.linkless purpose

theorem Alike.lookup_join (h : s.Alike n fs gs) (hn : Path.IsOrdinary n) (hm : Path.IsOrdinary m) (purpose : Purpose) :
    gs.lookup purpose ((s.pathOf n).join ⟨m⟩) = fs.lookup purpose ((s.pathOf n).join ⟨m⟩) := by
  have hstart : ∀ fs : FileStore, fs.start ((s.pathOf n).join ⟨m⟩) = fs.start s.path := fun fs =>
    (start_join hm.isAbsolute fs).trans (start_join hn.isAbsolute fs)
  refine lookup_below [m] h.left.enters h.right.enters (hstart fs) (hstart gs) ?_ h.same h.left.linkless purpose
  rw [stepsOf_join_ordinary hm, pathOf, segmentsOf_join hn.isAbsolute, segmentsOf_of_not_mem hn.2.1 hn.1,
    List.map_append, List.append_assoc, List.map_singleton, Step.ofSegment_ordinary hn]
  rfl

theorem Alike.node_pathOf (h : s.Alike n fs gs) (hn : Path.IsOrdinary n) (purpose : Purpose) :
    gs.node purpose (s.pathOf n) = fs.node purpose (s.pathOf n) := by
  rw [node, node, h.lookup_pathOf hn]

theorem Alike.pathExists_pathOf (h : s.Alike n fs gs) (hn : Path.IsOrdinary n) :
    gs.pathExists (s.pathOf n) = fs.pathExists (s.pathOf n) := by
  rw [pathExists, pathExists, h.node_pathOf hn]

theorem Alike.pathExists_join (h : s.Alike n fs gs) (hn : Path.IsOrdinary n) (hm : Path.IsOrdinary m) :
    gs.pathExists ((s.pathOf n).join ⟨m⟩) = fs.pathExists ((s.pathOf n).join ⟨m⟩) := by
  rw [pathExists, pathExists, node, node, h.lookup_join hn hm]

theorem Holds.pathExists_of_none (h : s.Holds n fs) (hn : Path.IsOrdinary n) (hnone : fs.root.get? (s.entry n) = none) :
    fs.pathExists (s.pathOf n) = false := by
  rw [← Bool.not_eq_true, pathExists_iff]
  rintro ⟨L, hL⟩
  obtain ⟨R, k, hR, hreach⟩ := hL.above_name hn
  obtain rfl := h.enters.unique hR
  exact hreach.child_of_found (Node.view_eq_none.2 hnone)

/-- what the path of an entry leads to is the tree of the entry -/
theorem Holds.get?_of_node (h : s.Holds n fs) (hn : Path.IsOrdinary n) {x : Node}
    (hx : fs.node .itself (s.pathOf n) = .ok x) : fs.root.get? (s.entry n) = some x := by
  obtain ⟨L, hL, hx⟩ := node_eq_ok.1 hx
  obtain ⟨R, k, hR, hreach⟩ := hL.above_name hn
  obtain rfl := h.enters.unique hR
  cases hreach with
  | enter _ _ _ hdone =>
    cases hdone
    exact hx
  | file => exact hx
  | stop => exact hx
  | follow _ _ _ hitself => exact absurd ⟨rfl, rfl⟩ hitself

/-- where a file of an entry is written, that entry is a directory, and the file is in it -/
theorem Holds.loc_of_leads (h : s.Holds n fs) (hn : Path.IsOrdinary n) (hm : Path.IsOrdinary m) {r : Place}
    (hr : fs.Leads .writing ((s.pathOf n).join ⟨m⟩) r) :
    fs.root.view (s.entry n) = some .dir ∧ r.loc = s.entry n ++ [m] := by
  obtain ⟨D, k, hD, hreach⟩ := hr.above_name hm
  obtain rfl : D = s.entry n := h.enters.child_eq hD hn (h.linkless [])
  refine ⟨hD.dir, ?_⟩
  cases hreach with
  | enter _ _ _ hdone =>
    cases hdone
    rfl
  | file => rfl
  | free => rfl
  | stop hp => cases hp
  | follow _ _ hv =>
    rw [entry, List.append_assoc] at hv
    exact absurd hv (h.linkless [m] _)

/-- changes of an entry that leave the directory where it is give stores with the same tree there -/
theorem Alike.amend (h : s.Alike n fs gs) {fs' gs' : FileStore} (cs : List (Option Node)) (hfs : s.Holds n fs')
    (hgs : s.Holds n gs') (hroot : fs'.root = fs.root.amend (s.entry n) cs)
    (hroot' : gs'.root = gs.root.amend (s.entry n) cs) : s.Alike n fs' gs' := by
  refine ⟨hfs, hgs, ?_⟩
  rw [hroot, hroot']
  exact Node.get?_amend_congr h.left.enters.dir h.right.enters.dir h.same cs

/-- changes of one entry leave the others as they are -/
theorem Alike.of_amend (hm : s.Holds m fs) {fs' : FileStore} {cs : List (Option Node)} (hn : s.Holds n fs')
    (hmn : m ≠ n) (hroot : fs'.root = fs.root.amend (s.entry n) cs) : s.Alike m fs fs' := by
  have hsame : fs'.root.get? (s.entry m) = fs.root.get? (s.entry m) := by
    rw [hroot]
    exact Node.get?_amend_of_ne hm.enters.dir hmn cs
  exact ⟨hm, ⟨hn.cwd, hn.enters, fun x hx => hm.proper x (hsame.symm.trans hx)⟩, hsame⟩

/-- a file that is written into an entry is put into its tree -/
theorem Holds.edit (h : s.Holds n fs) (hm : Path.IsOrdinary m) {p : Path} {change : List UInt8 → List UInt8}
    {fs' : FileStore} (he : fs.edit p change = .ok fs') {x : Node} (hx : fs.root.get? (s.entry n) = some x)
    {content : List UInt8} {executable : Bool}
    (hroot : fs'.root = fs.root.replace (s.entry n) (some (x.set [m] (.file content executable)))) :
    s.Holds n fs' := by
  have hways := (edit_extends he).toKeepsWays
  refine ⟨hways.cwd.trans h.cwd, h.enters.retrace hways, fun z hz => ?_⟩
  rw [hroot, entry, Node.get?_replace h.enters.dir, if_pos rfl] at hz
  obtain rfl := Option.some.inj hz
  exact (h.proper x hx).set_file hm content executable

/-- writing a file of an entry fails in both stores in the same way, or makes the same change in both -/
theorem Alike.edit (h : s.Alike n fs gs) (hn : Path.IsOrdinary n) (hm : Path.IsOrdinary m)
    (change : List UInt8 → List UInt8) :
    (∃ f, fs.edit ((s.pathOf n).join ⟨m⟩) change = .error f ∧ gs.edit ((s.pathOf n).join ⟨m⟩) change = .error f) ∨
      ∃ z fs' gs', fs.edit ((s.pathOf n).join ⟨m⟩) change = .ok fs' ∧
        gs.edit ((s.pathOf n).join ⟨m⟩) change = .ok gs' ∧ s.Alike n fs' gs' ∧
        fs'.root = fs.root.amend (s.entry n) [some z] ∧ gs'.root = gs.root.amend (s.entry n) [some z] := by
  have hfs := edit_eq fs ((s.pathOf n).join ⟨m⟩) change
  have hgs := edit_eq gs ((s.pathOf n).join ⟨m⟩) change
  rw [h.lookup_join hn hm] at hgs
  cases hw : fs.lookup .writing ((s.pathOf n).join ⟨m⟩) >>= Spot.written change with
  | error f =>
    rw [hw] at hfs hgs
    exact .inl ⟨f, hfs, hgs⟩
  | ok file =>
    rw [hw] at hfs hgs
    obtain ⟨spot, hl, hw⟩ := bind_eq_ok hw
    obtain ⟨r, hr, rfl⟩ := lookup_eq_ok.1 hl
    obtain ⟨loc, content, executable⟩ := file
    obtain rfl : loc = r.loc := Place.fst_of_written hw
    obtain ⟨hd, hloc⟩ := h.left.loc_of_leads hn hm hr
    obtain ⟨x, hx, -⟩ := Node.view_eq_some.1 hd
    -- what is put into the entry is a change of the whole entry
    have hput : ∀ {fs : FileStore}, fs.root.get? (s.entry n) = some x → (fs.put r.loc (.file content executable)).root =
        fs.root.replace (s.entry n) (some (x.set [m] (.file content executable))) := by
      intro fs hx
      rw [hloc]
      exact Node.set_append hx [m] _
    have hx' := h.same.trans hx
    have hleft := h.left.edit hm hfs hx (hput hx)
    have hright := h.right.edit hm hgs hx' (hput hx')
    exact .inr ⟨_, _, _, hfs, hgs, h.amend [some _] hleft hright (hput hx) (hput hx'), hput hx, hput hx'⟩

end Site

end FileStore

end Benchwork
