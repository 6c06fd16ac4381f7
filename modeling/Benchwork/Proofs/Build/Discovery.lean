/-
What the search for descriptors finds.

The walk from a root has everything before it that is below the root, in ascending order (`scene_spec`): a link is met
but not followed, except that a link at the root is entered. The files with a certain name among it are the descriptors
(`mem_filesMet`), and those with the fewest names on the way are the ones closest to the root, since a name more is a
component more, however the root is spelled. So the search finds the closest descriptors, in ascending order
(`find_of_reachable`), unless there is a directory that is too far down: then it reports the first of these
(`find_of_isTooFar`).
-/
import Benchwork.Proofs.Build.Closest
import Benchwork.Proofs.Files.Components
import Benchwork.Proofs.Files.Orderly

namespace Benchwork.Build.Descriptor

open Benchwork.Text FileStore

variable {fs : FileStore} {root : Path} {L : Location}

theorem pathFrom_eq_below {loc : Location} (h : ∀ n ∈ loc, Path.IsOrdinary n) (root : Path) :
    pathFrom root loc = root.below loc :=
  Path.foldl_join h root

/-! ## What there is to walk -/

theorem walk_eq_cons (x : Node) : x.walk = ([], x.kind) :: x.walk.tail := by
  cases x <;> rfl

/-- what a walk of an orderly tree meets after the root is what is below the root -/
theorem mem_tail_walk {x : Node} (hx : x.Orderly) {loc : Location} {k : Kind} :
    (loc, k) ∈ x.walk.tail ↔ x.view loc = some k ∧ loc ≠ [] := by
  have hpair := hx.pairwise_walk
  rw [walk_eq_cons, List.pairwise_cons] at hpair
  rw [← hx.mem_walk, walk_eq_cons x, List.tail_cons]
  constructor
  · intro hmem
    refine ⟨List.mem_cons_of_mem _ hmem, ?_⟩
    rintro rfl
    exact absurd (hpair.1 _ hmem) (List.lt_irrefl _)
  · rintro ⟨hmem, hne⟩
    rcases List.mem_cons.1 hmem with h | h
    · exact absurd (Prod.mk.inj h).1 hne
    · exact h

/-- the walk from an existing root has what is below the root before it, in ascending order; the root itself counts as
what it is itself, so a link at the root is no file and no directory -/
theorem scene_spec (hfs : fs.root.Orderly) (hroot : fs.Leads .target root (.found L)) :
    ∃ met, scene fs root = .ok met ∧ met.Pairwise (fun a b => a.1 < b.1) ∧
      ∀ loc k, (∀ target, k ≠ .link target) →
        ((loc, k) ∈ met ↔ fs.root.view (L ++ loc) = some k ∧ (loc = [] → fs.Leads .itself root (.found L))) := by
  obtain ⟨x, hx⟩ := hroot.present
  have horder : x.Orderly := hfs.subtree hx
  have hview : ∀ loc, fs.root.view (L ++ loc) = x.view loc := fun loc => by rw [Node.view_append, hx]; rfl
  obtain ⟨L₀, hreach⟩ := hroot.reach.itself
  have hitself : fs.Leads .itself root (.found L₀) :=
    ⟨hroot.clean, hroot.nonempty, hroot.short, hroot.start, hreach⟩
  by_cases hlink : ∃ target, fs.root.view L₀ = some (.link target)
  · obtain ⟨target, htarget⟩ := hlink
    obtain ⟨y, hy, hkind⟩ := Node.view_eq_some.1 htarget
    obtain rfl : y = .link target := by cases y <;> simp_all [Node.kind]
    -- the root is a link: what it leads to is walked, but for the root
    have hscene : scene fs root = .ok (([], .link target) :: x.walk.tail) := by
      rw [scene, node_eq_ok.2 ⟨L₀, hitself, hy⟩, node_eq_ok.2 ⟨L, hroot, hx⟩]
      cases x <;> rfl
    have hnot : ¬ fs.Leads .itself root (.found L) := by
      intro h
      obtain rfl : L₀ = L := Place.found.inj (hitself.unique h)
      rcases hroot.kind with hd | ⟨content, hc⟩ <;> simp_all
    refine ⟨_, hscene, ?_, fun loc k hk => ?_⟩
    · have hpair := horder.pairwise_walk
      rw [walk_eq_cons, List.pairwise_cons] at hpair
      exact List.pairwise_cons.2 hpair
    · rw [List.mem_cons, hview, mem_tail_walk horder]
      simp [hnot, hk]
  · -- the root is what the path leads to
    have hproper : fs.root.view L₀ = some .dir ∨ ∃ content, fs.root.view L₀ = some (.file content) := by
      rcases hitself.reach.kind hitself.start with h | h | ⟨-, h⟩
      · exact .inl h
      · exact .inr h
      · exact absurd h hlink
    obtain rfl : L₀ = L := Place.found.inj ((hitself.retrace (.refl fs) hproper).unique hroot)
    have hscene : scene fs root = .ok x.walk := by
      rw [scene, node_eq_ok.2 ⟨L₀, hitself, hx⟩]
      cases x with
      | file content executable => rfl
      | link target => exact absurd ⟨target, Node.view_eq_some.2 ⟨_, hx, rfl⟩⟩ hlink
      | dir entries => rfl
    refine ⟨x.walk, hscene, horder.pairwise_walk, fun loc k _ => ?_⟩
    rw [horder.mem_walk, hview]
    simp [hitself]

/-- what can be walked is there -/
theorem leads_of_scene {met : List (Location × Kind)} (h : scene fs root = .ok met) :
    ∃ L, fs.Leads .target root (.found L) := by
  rw [scene] at h
  cases hx : fs.node .itself root with
  | error f =>
    rw [hx] at h
    cases h
  | ok x =>
    obtain ⟨L, hL, hget⟩ := node_eq_ok.1 hx
    cases x with
    | file content executable =>
      have hview : fs.root.view L = some (.file content) := Node.view_eq_some.2 ⟨_, hget, rfl⟩
      exact ⟨L, hL.retrace (.refl fs) (.inr ⟨content, hview⟩)⟩
    | dir entries => exact ⟨L, hL.retrace (.refl fs) (.inl (Node.view_eq_some.2 ⟨_, hget, rfl⟩))⟩
    | link target =>
      rw [hx] at h
      cases hy : fs.node .target root with
      | error f =>
        rw [hy] at h
        cases h
      | ok y =>
        obtain ⟨L', hL', -⟩ := node_eq_ok.1 hy
        exact ⟨L', hL'⟩

/-! ## Descriptors -/

/-- there is a regular file called `name` at `loc` below the root of a walk; a link at the root is none -/
structure IsDescriptor (fs : FileStore) (root : Path) (L : Location) (name : String) (loc : Location) : Prop where
  file : ∃ content, fs.root.view (L ++ loc) = some (.file content)
  called : (L ++ loc).getLast? = some (Utf8.encode name)
  proper : loc = [] → fs.Leads .itself root (.found L)

/-- there is a directory at `loc` below the root of a walk, with a path that is too long to open it by -/
structure IsTooFar (fs : FileStore) (root : Path) (L loc : Location) : Prop where
  dir : fs.root.view (L ++ loc) = some .dir
  long : pathLimit < (root.below loc).bytes.length

def filesMet (root : Path) (name : String) (met : List (Location × Kind)) : List Location :=
  (met.filter (isMatch root (Utf8.encode name))).map (·.1)

/-- a walk calls a file by the last name on the way to it -/
theorem nameFrom_eq_iff {loc : Location} {content : List UInt8} {n : Name}
    (hfile : fs.root.view (L ++ loc) = some (.file content)) (hroot : loc = [] → fs.Leads .itself root (.found L)) :
    nameFrom root loc = n ↔ (L ++ loc).getLast? = some n := by
  cases loc using List.reverseRecOn with
  | nil =>
    rw [List.append_nil] at hfile ⊢
    obtain ⟨m, -, hm⟩ := (hroot rfl).reach.last_of_file (hroot rfl).start hfile
    simp [nameFrom, (hroot rfl).fileName hfile, hm]
  | append_singleton loc m => simp [nameFrom, List.getLast?_append]

theorem mem_filesMet {met : List (Location × Kind)}
    (hmet : ∀ loc k, (∀ target, k ≠ .link target) →
      ((loc, k) ∈ met ↔ fs.root.view (L ++ loc) = some k ∧ (loc = [] → fs.Leads .itself root (.found L))))
    {name : String} {loc : Location} : loc ∈ filesMet root name met ↔ IsDescriptor fs root L name loc := by
  simp only [filesMet, List.mem_map, List.mem_filter]
  constructor
  · rintro ⟨⟨l, k⟩, ⟨hmem, hmatch⟩, rfl⟩
    cases k with
    | file content =>
      obtain ⟨hview, hproper⟩ := (hmet l (.file content) (by simp)).1 hmem
      have hname : nameFrom root l = Utf8.encode name := of_decide_eq_true hmatch
      exact ⟨⟨content, hview⟩, (nameFrom_eq_iff hview hproper).1 hname, hproper⟩
    | link target => cases hmatch
    | dir => cases hmatch
  · rintro ⟨⟨content, hview⟩, hcalled, hproper⟩
    refine ⟨(loc, .file content), ⟨(hmet loc _ (by simp)).2 ⟨hview, hproper⟩, ?_⟩, rfl⟩
    exact decide_eq_true ((nameFrom_eq_iff hview hproper).2 hcalled)

/-- names below the root that can be asked for are fewest where the path has the fewest components -/
theorem nearest_map_below {locs : List Location} (h : ∀ loc ∈ locs, ∀ n ∈ loc, Path.IsOrdinary n) (root : Path) :
    nearest (locs.map root.below) =
      (locs.filter fun loc => locs.all fun loc' => loc.length ≤ loc'.length).map root.below := by
  rw [nearest, List.filter_map]
  refine congrArg _ (List.filter_congr fun loc hloc => ?_)
  simp only [Function.comp_apply, List.all_map]
  rw [Bool.eq_iff_iff, List.all_eq_true, List.all_eq_true]
  refine forall₂_congr fun loc' hloc' => ?_
  simp [Path.depth_below (h loc hloc), Path.depth_below (h loc' hloc')]

theorem mem_scene_ordinary (hfs : fs.root.Orderly) {loc : Location} {k : Kind}
    (h : fs.root.view (L ++ loc) = some k) : ∀ n ∈ loc, Path.IsOrdinary n :=
  fun n hn => hfs.isOrdinary (by simp [h]) n (List.mem_append_right L hn)

/-! ## The search -/

/-- where every directory can be opened, the search finds the descriptors closest to the root, and these only -/
theorem find_of_reachable (hfs : fs.root.Orderly) (hroot : fs.Leads .target root (.found L)) (name : String)
    (hnear : ∀ loc, ¬ IsTooFar fs root L loc) :
    ∃ locs, find fs root name = .ok (locs.map root.below) ∧ (locs.map root.below).Nodup ∧ locs.Pairwise (· < ·) ∧
      (∀ loc, loc ∈ locs ↔ IsDescriptor fs root L name loc ∧
        ∀ loc', IsDescriptor fs root L name loc' → loc.length ≤ loc'.length) ∧
      (locs = [] ↔ ∀ loc, ¬ IsDescriptor fs root L name loc) := by
  obtain ⟨met, hscene, hpair, hmet⟩ := scene_spec hfs hroot
  have hwalk : walk fs root = .ok met := by
    refine walk_eq_ok.2 ⟨hscene, ?_⟩
    rintro ⟨loc, k⟩ hmem
    cases k with
    | dir =>
      have hview := ((hmet loc .dir (by simp)).1 hmem).1
      have hshort := hnear loc ∘ IsTooFar.mk hview
      rw [isOutOfReach, pathFrom_eq_below (mem_scene_ordinary hfs hview)]
      exact decide_eq_false hshort
    | file content => rfl
    | link target => rfl
  have hmem : ∀ loc, loc ∈ filesMet root name met ↔ IsDescriptor fs root L name loc := fun loc => mem_filesMet hmet
  have hordinary : ∀ loc ∈ filesMet root name met, ∀ n ∈ loc, Path.IsOrdinary n := by
    intro loc hloc
    obtain ⟨content, hview⟩ := ((hmem loc).1 hloc).file
    exact mem_scene_ordinary hfs hview
  have hcalled : called root name met = (filesMet root name met).map root.below := by
    rw [called, filesMet, List.map_map]
    refine List.map_congr_left fun m hm => pathFrom_eq_below (hordinary m.1 ?_) root
    exact List.mem_map_of_mem hm
  have hlt : (filesMet root name met).Pairwise (· < ·) := List.pairwise_map.2 (hpair.filter _)
  set closest := (filesMet root name met).filter fun loc =>
    (filesMet root name met).all fun loc' => loc.length ≤ loc'.length with hclosest
  have hsub : ∀ loc ∈ closest, loc ∈ filesMet root name met := fun loc h => List.mem_of_mem_filter h
  have hfind : find fs root name = .ok (closest.map root.below) := by
    rw [find_eq_map, hwalk, hclosest, ← nearest_map_below hordinary, ← hcalled]
    rfl
  have hnodup : closest.Nodup := by
    refine (hlt.filter _).imp ?_
    rintro loc _ h rfl
    exact List.lt_irrefl loc h
  refine ⟨closest, hfind, ?_, hlt.filter _, fun loc => ?_, ?_⟩
  · refine List.Nodup.map_on (fun a ha b hb h => ?_) hnodup
    exact Path.below_injective (hordinary a (hsub a ha)) (hordinary b (hsub b hb)) h
  · simp only [hclosest, List.mem_filter, List.all_eq_true, decide_eq_true_eq, hmem]
  · have hnil : closest = [] ↔ filesMet root name met = [] := by
      rw [← List.map_eq_nil_iff (f := root.below), hclosest, ← nearest_map_below hordinary, nearest_eq_nil,
        List.map_eq_nil_iff]
    rw [hnil, List.eq_nil_iff_forall_not_mem]
    exact forall_congr' fun loc => not_congr (hmem loc)

/-- where a directory cannot be opened, the search reports the first one of these -/
theorem find_of_isTooFar (hfs : fs.root.Orderly) (hroot : fs.Leads .target root (.found L)) (name : String)
    (hfar : ∃ loc, IsTooFar fs root L loc) :
    ∃ loc, IsTooFar fs root L loc ∧ (∀ loc', IsTooFar fs root L loc' → loc' = loc ∨ loc < loc') ∧
      find fs root name = .error (.file (root.below loc) (.walk (root.below loc) .nameTooLong)) := by
  obtain ⟨met, hscene, hpair, hmet⟩ := scene_spec hfs hroot
  -- the root was found by its path, so it is not too far
  have hbelow : ∀ loc, IsTooFar fs root L loc ↔ (loc, .dir) ∈ met ∧ isOutOfReach root (loc, .dir) = true := by
    intro loc
    rw [hmet loc .dir (by simp), isOutOfReach, decide_eq_true_iff]
    constructor
    · rintro ⟨hdir, hlong⟩
      rw [pathFrom_eq_below (mem_scene_ordinary hfs hdir)]
      refine ⟨⟨hdir, ?_⟩, hlong⟩
      rintro rfl
      exact absurd hroot.short (Nat.not_le.2 hlong)
    · rintro ⟨⟨hdir, -⟩, hlong⟩
      rw [pathFrom_eq_below (mem_scene_ordinary hfs hdir)] at hlong
      exact ⟨hdir, hlong⟩
  cases hfirst : met.find? (isOutOfReach root) with
  | none =>
    obtain ⟨loc, hloc⟩ := hfar
    obtain ⟨hmem, hout⟩ := (hbelow loc).1 hloc
    exact absurd hout (List.find?_eq_none.1 hfirst _ hmem)
  | some m =>
    obtain ⟨loc, k⟩ := m
    obtain ⟨hout, before, after, hsplit, hbefore⟩ := List.find?_eq_some_iff_append.1 hfirst
    obtain rfl : k = .dir := by
      cases k with
      | dir => rfl
      | file content => cases hout
      | link target => cases hout
    have hloc : IsTooFar fs root L loc := (hbelow loc).2 ⟨List.mem_of_find?_eq_some hfirst, hout⟩
    refine ⟨loc, hloc, fun loc' h' => ?_, ?_⟩
    · obtain ⟨hmem, hout'⟩ := (hbelow loc').1 h'
      rw [hsplit] at hmem hpair
      rcases List.mem_append.1 hmem with h | h
      · simpa [hout'] using hbefore _ h
      · rcases List.mem_cons.1 h with h | h
        · exact .inl (Prod.mk.inj h).1
        · exact .inr (List.rel_of_pairwise_cons (List.pairwise_append.1 hpair).2.1 h)
    · rw [find, walk, hscene]
      simp only [hfirst]
      rw [pathFrom_eq_below (mem_scene_ordinary hfs hloc.dir)]
      rfl

/-- **The search finds what is closest.** From an existing root it finds the descriptors closest to it, each once, in
ascending order, and nothing only where there is none; but a directory with too long a path ends it, with an error for
the first such directory. -/
theorem find_closest_or_first_too_far (fs : FileStore) (hfs : fs.root.Orderly) (root : Path) (L : Location)
    (hroot : fs.Leads .target root (.found L)) (name : String) :
    ((∀ loc, ¬ IsTooFar fs root L loc) →
      ∃ locs, find fs root name = .ok (locs.map root.below) ∧ (locs.map root.below).Nodup ∧ locs.Pairwise (· < ·) ∧
        (∀ loc, loc ∈ locs ↔ IsDescriptor fs root L name loc ∧
          ∀ loc', IsDescriptor fs root L name loc' → loc.length ≤ loc'.length) ∧
        (locs = [] ↔ ∀ loc, ¬ IsDescriptor fs root L name loc)) ∧
    ((∃ loc, IsTooFar fs root L loc) →
      ∃ loc, IsTooFar fs root L loc ∧ (∀ loc', IsTooFar fs root L loc' → loc' = loc ∨ loc < loc') ∧
        find fs root name = .error (.file (root.below loc) (.walk (root.below loc) .nameTooLong))) :=
  ⟨find_of_reachable hfs hroot name, find_of_isTooFar hfs hroot name⟩

/-- a tree with descriptors on several levels, a directory and a link called like one, and a file that is not -/
def scattered : FileStore :=
  ⟨.dir [(Utf8.encode "r", .dir [
    (Utf8.encode "a", .dir [
      (Utf8.encode "deep", .dir [(Utf8.encode "pom.xml", .file [] false)]),
      (Utf8.encode "pom.xml", .file [] false)]),
    (Utf8.encode "b", .dir [(Utf8.encode "pom.xml", .dir [])]),
    (Utf8.encode "c", .dir [(Utf8.encode "pom.xml", .file [] false), (Utf8.encode "pom.xml.bak", .file [] false)]),
    (Utf8.encode "pom.xml", .link (.ofString "a/pom.xml"))])], []⟩

/-- in the scattered tree, the two descriptors on the second level are found, and no others are as close -/
theorem find_scattered :
    let root := Path.ofString ".//r/"
    let L : Location := [Utf8.encode "r"]
    scattered.root.Orderly ∧ scattered.Leads .target root (.found L) ∧ (∀ loc, ¬ IsTooFar scattered root L loc) ∧
      find scattered root "pom.xml" = .ok [.ofString ".//r/a/pom.xml", .ofString ".//r/c/pom.xml"] ∧
      ∃ locs : List Location, locs.map root.below = [.ofString ".//r/a/pom.xml", .ofString ".//r/c/pom.xml"] ∧
        ∀ loc, loc ∈ locs ↔ IsDescriptor scattered root L "pom.xml" loc ∧
          ∀ loc', IsDescriptor scattered root L "pom.xml" loc' → loc.length ≤ loc'.length := by
  intro root L
  have horder : scattered.root.Orderly := by decide +kernel
  have hleads : scattered.Leads .target root (.found L) := by
    refine ⟨by decide +kernel, by decide +kernel, by decide +kernel, rfl, ?_⟩
    rw [show stepsOf root = [.here, .down (Utf8.encode "r"), .slash] by decide +kernel]
    exact .here (.enter (isBarred_of_ne (by simp) _) (by decide +kernel) (by decide +kernel) (.slash .done))
  have hnear : ∀ loc, ¬ IsTooFar scattered root L loc := by
    rintro loc ⟨hdir, hlong⟩
    have hshort : ∀ m ∈ scattered.root.walk, (root.below (m.1.drop 1)).bytes.length ≤ pathLimit := by decide +kernel
    exact Nat.not_lt.2 (hshort _ (Node.mem_walk_of_view hdir)) hlong
  have hfind : find scattered root "pom.xml" =
      .ok [.ofString ".//r/a/pom.xml", .ofString ".//r/c/pom.xml"] := by decide +kernel
  obtain ⟨locs, hlocs, -, -, hmem, -⟩ :=
    (find_closest_or_first_too_far scattered horder root L hleads "pom.xml").1 hnear
  exact ⟨horder, hleads, hnear, hfind, locs, Except.ok.inj (hlocs.symm.trans hfind), hmem⟩

def oneDown : FileStore :=
  ⟨.dir [(Utf8.encode "a", .dir [(Utf8.encode "sub", .dir [(Utf8.encode "pom.xml", .file [] false)])])], []⟩

/-- the directory `a` of `oneDown`, with slashes at the end -/
def slashed (k : Nat) : Path := ⟨Utf8.encode "a" ++ List.replicate k Path.slash⟩

theorem length_slashed (k : Nat) : (slashed k).bytes.length = k + 1 := by
  rw [slashed, List.length_append, List.length_replicate, show (Utf8.encode "a").length = 1 by decide +kernel]
  omega

theorem leads_slashed {k : Nat} (hpos : 0 < k) (hk : k < pathLimit) :
    oneDown.Leads .target (slashed k) (.found [Utf8.encode "a"]) := by
  have hstart : oneDown.start (slashed k) = [] := by
    rw [FileStore.start]
    split_ifs <;> rfl
  have hend : (slashed k).bytes.getLast? = some Path.slash := by
    simp [slashed, List.getLast?_append, List.getLast?_replicate, hpos.ne']
  have hsteps : stepsOf (slashed k) = [.down (Utf8.encode "a"), .slash] := by
    rw [stepsOf_eq, if_pos hend, slashed, segmentsOf_append_slashes]
    decide +kernel
  refine ⟨?_, ?_, ?_, by rw [hstart]; rfl, ?_⟩
  · have ha : 0 ∉ Utf8.encode "a" := by decide +kernel
    have hslash : (0 : UInt8) ≠ Path.slash := by decide
    simp [slashed, ha, hslash]
  · exact List.ne_nil_of_length_pos (by rw [length_slashed]; omega)
  · rw [length_slashed]
    omega
  · rw [hsteps, hstart]
    exact .enter (isBarred_of_ne (by simp) _) (by decide +kernel) (by decide +kernel) (.slash .done)

/-- with as many slashes as leave no room for another name, the directory below is too far, and it is the only one -/
theorem isTooFar_slashed {k : Nat} (hlow : pathLimit < k + 4) (hhigh : k < pathLimit) {loc : Location} :
    IsTooFar oneDown (slashed k) [Utf8.encode "a"] loc ↔ loc = [Utf8.encode "sub"] := by
  constructor
  · rintro ⟨hdir, hlong⟩
    have hdirs : ∀ m ∈ oneDown.root.walk, m.2 = .dir → m.1.drop 1 = [] ∨ m.1.drop 1 = [Utf8.encode "sub"] := by
      decide +kernel
    rcases hdirs _ (Node.mem_walk_of_view hdir) rfl with h | h
    · obtain rfl : loc = [] := h
      rw [Path.below, if_pos rfl, length_slashed] at hlong
      omega
    · exact h
  · rintro rfl
    refine ⟨by decide +kernel, ?_⟩
    have hlong := Path.length_join (p := slashed k) (q := ⟨Utf8.encode "sub"⟩) (by decide +kernel)
    rw [length_slashed, show (Utf8.encode "sub").length = 3 by decide +kernel] at hlong
    exact lt_of_lt_of_le (by omega) hlong

/-- slashes at the end of the root do not change what the root is, but they can make a directory too far: the descriptor
in it is not found -/
theorem descriptor_out_of_reach :
    let root := slashed 4093
    let L : Location := [Utf8.encode "a"]
    let sub := root.below [Utf8.encode "sub"]
    oneDown.root.Orderly ∧ oneDown.Leads .target root (.found L) ∧
      IsDescriptor oneDown root L "pom.xml" [Utf8.encode "sub", Utf8.encode "pom.xml"] ∧
      find oneDown root "pom.xml" = .error (.file sub (.walk sub .nameTooLong)) := by
  have horder : oneDown.root.Orderly := by decide +kernel
  have hleads : oneDown.Leads .target (slashed 4093) (.found [Utf8.encode "a"]) :=
    leads_slashed (by decide) (by decide)
  have hfar : ∀ {loc}, IsTooFar oneDown (slashed 4093) [Utf8.encode "a"] loc ↔ loc = [Utf8.encode "sub"] :=
    isTooFar_slashed (by decide) (by decide)
  obtain ⟨loc, hloc, -, hfind⟩ := find_of_isTooFar horder hleads "pom.xml" ⟨_, hfar.2 rfl⟩
  obtain rfl := hfar.1 hloc
  exact ⟨horder, hleads, ⟨⟨[], by decide +kernel⟩, by decide +kernel, by simp⟩, hfind⟩

end Benchwork.Build.Descriptor
