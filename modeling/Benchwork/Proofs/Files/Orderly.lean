/-
Trees in order.

A tree is `Orderly` if every directory in it lists its entries in ascending order and under names that can be asked for,
as a file system does. A walk of such a tree meets what the tree shows and nothing else (`Orderly.mem_walk`), and it
meets it in ascending order of the locations, compared name by name (`Orderly.pairwise_walk`); both together tell an
orderly tree (`orderly_iff`). Writing a file leaves an orderly tree orderly (`edit_orderly`), since a free name that a
path leads to is one that can be asked for.
-/
import Benchwork.Proofs.Files.Subtree

namespace Benchwork

namespace Node

/-- every directory lists its entries in order, under ordinary names -/
def Orderly (x : Node) : Prop :=
  ∀ loc entries, x.get? loc = some (.dir entries) →
    Ordered.Sorted entries ∧ ∀ e ∈ entries, Path.IsOrdinary e.1

/-- what holds of files and links, and of a directory if it holds of its entries, holds of all nodes -/
theorem induct {P : Node → Prop} (file : ∀ content executable, P (.file content executable))
    (link : ∀ target, P (.link target)) (dir : ∀ entries, (∀ e ∈ entries, P e.2) → P (.dir entries)) (x : Node) : P x :=
  match x with
  | .file content executable => file content executable
  | .link target => link target
  | .dir entries => dir entries fun e he =>
    have : sizeOf e.2 < 1 + sizeOf entries := by
      have hlt := List.sizeOf_lt_of_mem he
      have hsnd : sizeOf e.2 < sizeOf e := by
        obtain ⟨n, y⟩ := e
        simp
      omega
    induct file link dir e.2
termination_by sizeOf x

theorem Orderly.subtree {x y : Node} (h : x.Orderly) {loc : Location} (hy : x.get? loc = some y) : y.Orderly := by
  intro l entries hl
  refine h (loc ++ l) entries ?_
  rw [get?_append, hy]
  exact hl

theorem orderly_of_kind {x : Node} (h : x.kind ≠ .dir) : x.Orderly := by
  intro loc entries hloc
  have hview : x.view loc = some .dir := view_eq_some.2 ⟨_, hloc, rfl⟩
  by_cases hnil : loc = []
  · subst hnil
    exact absurd (Option.some.inj hview) h
  · rw [view_of_ne_dir h loc hnil] at hview
    cases hview

theorem orderly_dir {entries : List (Name × Node)} :
    (Node.dir entries).Orderly ↔ Ordered.Sorted entries ∧ ∀ e ∈ entries, Path.IsOrdinary e.1 ∧ e.2.Orderly := by
  constructor
  · intro h
    obtain ⟨hsorted, hnames⟩ := h [] entries rfl
    refine ⟨hsorted, fun e he => ⟨hnames e he, ?_⟩⟩
    have hchild : (Node.dir entries).get? [e.1] = some e.2 := by simp [get?, child?, hsorted.lookup_eq_some.2 he]
    exact h.subtree hchild
  · rintro ⟨hsorted, hall⟩ loc es hloc
    cases loc with
    | nil =>
      obtain rfl := Node.dir.inj (Option.some.inj hloc)
      exact ⟨hsorted, fun e he => (hall e he).1⟩
    | cons n loc =>
      obtain ⟨y, hy, hloc⟩ := Option.bind_eq_some_iff.1 hloc
      exact (hall (n, y) (Ordered.mem_of_lookup hy)).2 loc es hloc

/-! ## Walking -/

theorem mem_walkEntry {n : Name} {x : Node} {loc : Location} {k : Kind} :
    (loc, k) ∈ walkEntry (n, x) ↔ ∃ l, loc = n :: l ∧ (l, k) ∈ x.walk := by
  rw [walkEntry, List.mem_map]
  constructor
  · rintro ⟨p, hp, he⟩
    obtain ⟨rfl, rfl⟩ := Prod.mk.inj he
    exact ⟨p.1, rfl, hp⟩
  · rintro ⟨l, rfl, hl⟩
    exact ⟨(l, k), hl, rfl⟩

/-- a walk of an orderly tree meets what the tree shows -/
theorem Orderly.mem_walk {x : Node} (h : x.Orderly) {loc : Location} {k : Kind} :
    (loc, k) ∈ x.walk ↔ x.view loc = some k := by
  refine ⟨fun hmem => ?_, mem_walk_of_view⟩
  induction x using Node.induct generalizing loc with
  | file content executable =>
    obtain ⟨rfl, rfl⟩ : loc = [] ∧ k = .file content := by simpa [walk] using hmem
    rfl
  | link target =>
    obtain ⟨rfl, rfl⟩ : loc = [] ∧ k = .link target := by simpa [walk] using hmem
    rfl
  | dir entries ih =>
    obtain ⟨hsorted, hall⟩ := orderly_dir.1 h
    rw [walk] at hmem
    rcases List.mem_cons.1 hmem with hroot | hmem
    · obtain ⟨rfl, rfl⟩ := Prod.mk.inj hroot
      rfl
    · obtain ⟨⟨n, y⟩, he, hmem⟩ := mem_walkEntries.1 hmem
      obtain ⟨l, rfl, hl⟩ := mem_walkEntry.1 hmem
      rw [view_cons, show (Node.dir entries).child? n = some y from hsorted.lookup_eq_some.2 he]
      exact ih (n, y) he (hall (n, y) he).2 hl

theorem Orderly.isOrdinary {x : Node} (h : x.Orderly) {loc : Location} (hview : x.view loc ≠ none) :
    ∀ n ∈ loc, Path.IsOrdinary n := by
  induction loc generalizing x with
  | nil => simp
  | cons n loc ih =>
    rw [view_cons] at hview
    cases x with
    | file content executable => exact absurd rfl hview
    | link target => exact absurd rfl hview
    | dir entries =>
      obtain ⟨hsorted, hall⟩ := orderly_dir.1 h
      cases hy : entries.lookup n with
      | none => simp [child?, hy] at hview
      | some y =>
        obtain ⟨hn, hy'⟩ := hall (n, y) (Ordered.mem_of_lookup hy)
        have hrest : y.view loc ≠ none := by simpa [child?, hy] using hview
        exact List.forall_mem_cons.2 ⟨hn, ih hy' hrest⟩

theorem walkEntries_eq (entries : List (Name × Node)) : walkEntries entries = entries.flatMap walkEntry := by
  induction entries with
  | nil => rfl
  | cons e entries ih => rw [walkEntries, ih, List.flatMap_cons]

/-- a walk of an orderly tree goes in ascending order -/
theorem Orderly.pairwise_walk {x : Node} (h : x.Orderly) : x.walk.Pairwise fun a b => a.1 < b.1 := by
  induction x using Node.induct with
  | file content executable => simp [walk]
  | link target => simp [walk]
  | dir entries ih =>
    obtain ⟨hsorted, hall⟩ := orderly_dir.1 h
    rw [walk, List.pairwise_cons, walkEntries_eq, List.pairwise_flatMap]
    refine ⟨fun p hp => ?_, fun e he => ?_, hsorted.imp fun {a b} hlt p hp q hq => ?_⟩
    · obtain ⟨⟨n, y⟩, -, hp⟩ := List.mem_flatMap.1 hp
      obtain ⟨l, hl, -⟩ := mem_walkEntry.1 hp
      rw [hl]
      exact List.nil_lt_cons n l
    · obtain ⟨n, y⟩ := e
      rw [walkEntry, List.pairwise_map]
      exact (ih (n, y) he (hall (n, y) he).2).imp fun hlt => List.cons_lt_cons_iff.2 (.inr ⟨rfl, hlt⟩)
    · obtain ⟨l, hl, -⟩ := mem_walkEntry.1 hp
      obtain ⟨m, hm, -⟩ := mem_walkEntry.1 hq
      rw [hl, hm]
      exact List.cons_lt_cons_iff.2 (.inl hlt)

/-- a tree is in order if a walk of it goes in ascending order and meets ordinary names only -/
theorem orderly_iff {x : Node} :
    x.Orderly ↔ x.walk.Pairwise (fun a b => a.1 < b.1) ∧ ∀ m ∈ x.walk, ∀ n ∈ m.1, Path.IsOrdinary n := by
  constructor
  · intro h
    exact ⟨h.pairwise_walk, fun m hm => h.isOrdinary (by simp [h.mem_walk.1 hm])⟩
  · rintro ⟨hpair, hnames⟩
    induction x using Node.induct with
    | file content executable => exact orderly_of_kind (by simp [kind])
    | link target => exact orderly_of_kind (by simp [kind])
    | dir entries ih =>
      rw [walk, List.pairwise_cons, walkEntries_eq, List.pairwise_flatMap] at hpair
      obtain ⟨-, hinner, houter⟩ := hpair
      have hroot : ∀ e : Name × Node, ([e.1], e.2.kind) ∈ walkEntry e :=
        fun e => mem_walkEntry.2 ⟨[], rfl, mem_walk_of_view rfl⟩
      have hmem : ∀ e ∈ entries, ∀ m ∈ walkEntry e, m ∈ (Node.dir entries).walk := by
        intro e he m hm
        rw [walk, walkEntries_eq]
        exact List.mem_cons_of_mem _ (List.mem_flatMap.2 ⟨e, he, hm⟩)
      refine orderly_dir.2 ⟨houter.imp fun {a b} h => ?_, fun e he => ⟨?_, ih e he ?_ fun m hm => ?_⟩⟩
      · simpa [List.cons_lt_cons_iff] using h _ (hroot a) _ (hroot b)
      · exact hnames _ (hmem e he _ (hroot e)) e.1 (by simp)
      · obtain ⟨n, y⟩ := e
        have hentry := hinner (n, y) he
        rw [walkEntry, List.pairwise_map] at hentry
        exact hentry.imp fun h => by simpa [List.cons_lt_cons_iff] using h
      · have hcons := hnames _ (hmem e he (e.1 :: m.1, m.2) (mem_walkEntry.2 ⟨m.1, rfl, hm⟩))
        exact fun n hn => hcons n (List.mem_cons_of_mem _ hn)

instance (x : Node) : Decidable x.Orderly := decidable_of_iff _ orderly_iff.symm

/-! ## Changes -/

/-- a node that is put under an ordinary name leaves the tree in order -/
theorem Orderly.set {x y : Node} (h : x.Orderly) (hy : y.Orderly) {n : Name} (hn : Path.IsOrdinary n)
    (loc : Location) : (x.set (loc ++ [n]) y).Orderly := by
  induction loc generalizing x with
  | nil =>
    cases x with
    | file content executable => exact h
    | link target => exact h
    | dir entries =>
      obtain ⟨hsorted, hall⟩ := orderly_dir.1 h
      refine orderly_dir.2 ⟨hsorted.put n y, fun e he => ?_⟩
      rcases Ordered.mem_put he with rfl | he
      · exact ⟨hn, hy⟩
      · exact hall e he
  | cons m loc ih =>
    cases x with
    | file content executable => rwa [set_of_ne_dir (by simp [kind]) (by simp)]
    | link target => rwa [set_of_ne_dir (by simp [kind]) (by simp)]
    | dir entries =>
      obtain ⟨hsorted, hall⟩ := orderly_dir.1 h
      cases hz : entries.lookup m with
      | none =>
        have hsame : (Node.dir entries).set (m :: loc ++ [n]) y = .dir entries := by
          cases loc <;> simp [Node.set, hz]
        rw [hsame]
        exact h
      | some z =>
        obtain ⟨hm, hz'⟩ := hall (m, z) (Ordered.mem_of_lookup hz)
        rw [List.cons_append, set_cons_of_child hz]
        refine orderly_dir.2 ⟨hsorted.put m _, fun e he => ?_⟩
        rcases Ordered.mem_put he with rfl | he
        · exact ⟨hm, ih hz'⟩
        · exact hall e he

end Node

namespace FileStore

/-- a free name is one that was asked for, by the path or by a link on the way -/
theorem Reach.isOrdinary_of_vacant {v : Location → Option Kind} {purpose : Purpose} {links : Nat} {loc d : Location}
    {rest : List Step} {n : Name} (h : Reach v purpose links loc rest (.vacant d n))
    (hrest : ∀ m, .down m ∈ rest → Path.IsOrdinary m) : Path.IsOrdinary n := by
  generalize hr : Place.vacant d n = r at h
  induction h with
  | done => cases hr
  | here _ ih => exact ih (fun m hm => hrest m (List.mem_cons_of_mem _ hm)) hr
  | slash _ ih => exact ih (fun m hm => hrest m (List.mem_cons_of_mem _ hm)) hr
  | up _ ih => exact ih (fun m hm => hrest m (List.mem_cons_of_mem _ hm)) hr
  | enter _ _ _ _ ih => exact ih (fun m hm => hrest m (List.mem_cons_of_mem _ hm)) hr
  | file => cases hr
  | free =>
    obtain ⟨-, rfl⟩ := Place.vacant.inj hr
    exact hrest _ List.mem_cons_self
  | stop => cases hr
  | follow _ _ _ _ _ _ ih =>
    refine ih (fun m hm => ?_) hr
    rcases List.mem_append.1 hm with hm | hm
    · exact (down_mem_stepsOf hm).2
    · exact hrest m (List.mem_cons_of_mem _ hm)

theorem edit_orderly {fs fs' : FileStore} {p : Path} {change : List UInt8 → List UInt8} (hfs : fs.root.Orderly)
    (h : fs.edit p change = .ok fs') : fs'.root.Orderly := by
  obtain ⟨r, c, e, hr, rfl, -, hold⟩ := edit_eq_ok h
  have hfile : (Node.file c e).Orderly := Node.orderly_of_kind (by simp [Node.kind])
  cases r with
  | vacant d n =>
    exact hfs.set hfile (hr.reach.isOrdinary_of_vacant fun _ hm => (down_mem_stepsOf hm).2) d
  | found loc =>
    -- a file that is there has an ordinary name already; the root is a directory
    rcases List.eq_nil_or_concat loc with rfl | ⟨d, n, rfl⟩
    · have hroot := Node.view_root hr.start
      rcases hold with ⟨hnone, -⟩ | ⟨old, hview, -⟩
      · rw [Place.loc, hroot] at hnone
        cases hnone
      · rw [Place.loc, hroot] at hview
        cases hview
    · rw [List.concat_eq_append] at hr ⊢
      obtain ⟨x, hx⟩ := hr.present
      have hview : fs.root.view (d ++ [n]) ≠ none := by
        rw [Ne, Node.view_eq_none, hx]
        simp
      exact hfs.set hfile (hfs.isOrdinary hview n (by simp)) d

end FileStore

end Benchwork
