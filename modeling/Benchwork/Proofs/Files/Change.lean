/-
What changes of the store do.

Every change puts one node without anything below it in one place (`Placed`): writing puts a file where its path leads,
making a directory puts one where nothing was. So a store that was written to has all that it had before
(`edit_extends`), the same directories (`edit_isDir`), and the file (`edit_pathExists`) with its new content
(`edit_read`). Making a directory with all those above it gives that directory (`makeDirs_isDir`) and does nothing where
it is already there (`makeDirs_of_isDir`).
-/
import Benchwork.Proofs.Files.Paths

namespace Benchwork

namespace FileStore

/-- one store is another one with something else in one place -/
structure Placed (fs : FileStore) (loc : Location) (k : Kind) (fs' : FileStore) : Prop where
  cwd : fs'.cwd = fs.cwd
  view : fs'.root.view = Function.update fs.root.view loc (some k)

theorem placed_put {fs : FileStore} {loc : Location} {n : Name} {y : Node} (h : fs.root.view loc = some .dir)
    (hx : fs.root.view (loc ++ [n]) ≠ some .dir) (hy : ∀ l ≠ [], y.view l = none) :
    fs.Placed (loc ++ [n]) y.kind (fs.put (loc ++ [n]) y) :=
  ⟨rfl, Node.view_set_leaf h hx hy⟩

theorem Placed.view_self {fs fs' : FileStore} {loc : Location} {k : Kind} (h : fs.Placed loc k fs') :
    fs'.root.view loc = some k := by
  rw [h.view, Function.update_self]

theorem Placed.view_of_ne {fs fs' : FileStore} {loc l : Location} {k : Kind} (h : fs.Placed loc k fs') (hl : l ≠ loc) :
    fs'.root.view l = fs.root.view l := by
  rw [h.view, Function.update_of_ne hl]

/-- what is put where there was nothing or a file adds to the store -/
theorem Placed.extends {fs fs' : FileStore} {loc : Location} {k : Kind} (h : fs.Placed loc k fs')
    (hold : fs.root.view loc = none ∨ ∃ c c', fs.root.view loc = some (.file c) ∧ k = .file c') : fs.Extends fs' := by
  have hkeep : ∀ {l : Location} {k' : Kind}, fs.root.view l = some k' → (∀ c, k' ≠ .file c) →
      fs'.root.view l = some k' := by
    intro l k' hl hk'
    by_cases hloc : l = loc
    · subst hloc
      rcases hold with hnone | ⟨c, -, hc, -⟩
      · simp [hnone] at hl
      · exact absurd (Option.some.inj (hl.symm.trans hc)) (hk' c)
    · rw [h.view_of_ne hloc, hl]
  refine ⟨⟨h.cwd, fun l hl => hkeep hl (by simp), fun l t hl => hkeep hl (by simp)⟩, fun l c hl => ?_⟩
  by_cases hloc : l = loc
  · subst hloc
    rcases hold with hnone | ⟨-, c', -, rfl⟩
    · simp [hnone] at hl
    · exact ⟨c', h.view_self⟩
  · exact ⟨c, by rw [h.view_of_ne hloc, hl]⟩

/-- a tree that is put where there was nothing adds to the store -/
theorem put_extends {fs : FileStore} {loc : Location} {n : Name} (h : fs.root.view loc = some .dir)
    (hfree : fs.root.view (loc ++ [n]) = none) (y : Node) : fs.Extends (fs.put (loc ++ [n]) y) := by
  have hkeep : ∀ {l : Location} {k : Kind}, fs.root.view l = some k → (fs.put (loc ++ [n]) y).root.view l = some k := by
    intro l k hl
    rw [put, Node.view_set h, if_neg, hl]
    rintro ⟨t, rfl⟩
    rw [Node.view_append_eq_none_of_none hfree] at hl
    cases hl
  exact ⟨⟨rfl, fun l hl => hkeep hl, fun l t hl => hkeep hl⟩, fun l c hl => ⟨c, hkeep hl⟩⟩

theorem placed_found {fs : FileStore} {purpose : Purpose} {p : Path} {loc : Location} {content : List UInt8}
    {executable : Bool} (h : fs.lookup purpose p = .ok (.found loc (.file content executable))) (c : List UInt8)
    (e : Bool) :
    fs.Leads purpose p (.found loc) ∧ fs.root.view loc = some (.file content) ∧
      fs.Placed loc (.file c) (fs.put loc (.file c e)) := by
  obtain ⟨r, hr, hspot⟩ := lookup_eq_ok.1 h
  cases r with
  | vacant dir n => simp [Place.spot] at hspot
  | found L =>
    obtain ⟨x, hx⟩ := hr.present
    obtain ⟨rfl, rfl⟩ : loc = L ∧ Node.file content executable = x := by simpa [Place.spot, hx] using hspot
    have hv : fs.root.view loc = some (.file content) := Node.view_eq_some.2 ⟨_, hx, rfl⟩
    refine ⟨hr, hv, ?_⟩
    -- the file is not the root, which is a directory
    rcases List.eq_nil_or_concat loc with rfl | ⟨d, n, rfl⟩
    · simp [Node.view_root hr.start] at hv
    · rw [List.concat_eq_append] at hv ⊢
      have hd : fs.root.view d = some .dir := Node.view_eq_dir_of_snoc (n := n) (by simp [hv])
      exact placed_put (n := n) hd (by simp [hv]) (Node.view_of_ne_dir (x := .file c e) (by simp [Node.kind]))

theorem placed_vacant {fs : FileStore} {purpose : Purpose} {p : Path} {dir : Location} {n : Name} {y : Node}
    (h : fs.lookup purpose p = .ok (.vacant dir n)) (hy : ∀ l ≠ [], y.view l = none) :
    fs.Leads purpose p (.vacant dir n) ∧ fs.Placed (dir ++ [n]) y.kind (fs.put (dir ++ [n]) y) := by
  obtain ⟨r, hr, hspot⟩ := lookup_eq_ok.1 h
  cases r with
  | found L => simp [Place.spot] at hspot
  | vacant d m =>
    obtain ⟨rfl, rfl⟩ : dir = d ∧ n = m := by simpa [Place.spot] using hspot
    obtain ⟨hd, hv⟩ := hr.reach.vacant
    exact ⟨hr, placed_put hd (by simp [hv]) hy⟩

/-! ## Writing files -/

/-- writing puts a file where the path leads, in place of nothing or of a file -/
theorem edit_eq_ok {fs fs' : FileStore} {p : Path} {change : List UInt8 → List UInt8}
    (h : fs.edit p change = .ok fs') :
    ∃ r c e, fs.Leads .writing p r ∧ fs' = fs.put r.loc (.file c e) ∧ fs.Placed r.loc (.file c) fs' ∧
      (fs.root.view r.loc = none ∧ c = change [] ∨
        ∃ old, fs.root.view r.loc = some (.file old) ∧ c = change old) := by
  rw [edit] at h
  split at h
  · rename_i loc content executable hs
    obtain rfl := Except.ok.inj h
    obtain ⟨hr, hv, hplaced⟩ := placed_found hs (change content) executable
    exact ⟨_, _, _, hr, rfl, hplaced, .inr ⟨content, hv, rfl⟩⟩
  · cases h
  · cases h
  · rename_i dir n hs
    obtain rfl := Except.ok.inj h
    obtain ⟨hr, hplaced⟩ := placed_vacant (y := .file (change []) false) hs (Node.view_of_ne_dir (by simp [Node.kind]))
    exact ⟨_, _, _, hr, rfl, hplaced, .inl ⟨hr.reach.vacant.2, rfl⟩⟩
  · cases h

theorem edit_extends {fs fs' : FileStore} {p : Path} {change : List UInt8 → List UInt8}
    (h : fs.edit p change = .ok fs') : fs.Extends fs' := by
  obtain ⟨r, c, -, -, -, hplaced, hold⟩ := edit_eq_ok h
  refine hplaced.extends ?_
  rcases hold with ⟨hnone, -⟩ | ⟨old, hfile, -⟩
  · exact .inl hnone
  · exact .inr ⟨old, c, hfile, rfl⟩

theorem edit_pathExists {fs fs' : FileStore} {p : Path} {change : List UInt8 → List UInt8}
    (h : fs.edit p change = .ok fs') : fs'.pathExists p = true := by
  obtain ⟨r, c, -, hr, -, hplaced, -⟩ := edit_eq_ok h
  exact pathExists_iff.2 ⟨r.loc, hr.retrace (edit_extends h).toKeepsWays (.inr ⟨c, hplaced.view_self⟩)⟩

/-- the content of a file; what is not there has none -/
def Content (fs : FileStore) (p : Path) (content : List UInt8) : Prop :=
  fs.read p = .ok content ∨ fs.read p = .error .notFound ∧ content = []

/-- what was written is read back, through the same path -/
theorem edit_read {fs fs' : FileStore} {p : Path} {change : List UInt8 → List UInt8}
    (h : fs.edit p change = .ok fs') : ∃ old, fs.Content p old ∧ fs'.read p = .ok (change old) := by
  obtain ⟨r, c, -, hr, -, hplaced, hold⟩ := edit_eq_ok h
  have hnew : fs'.Leads .target p (.found r.loc) :=
    hr.retrace (edit_extends h).toKeepsWays (.inr ⟨c, hplaced.view_self⟩)
  have hread := read_of_leads hnew hplaced.view_self
  cases r with
  | vacant d n =>
    rcases hold with ⟨-, rfl⟩ | ⟨old, hfile, -⟩
    · exact ⟨[], .inr ⟨read_of_vacant hr.of_writing, rfl⟩, hread⟩
    · exact absurd hr.reach.vacant.2 (by rw [show d ++ [n] = Place.loc (.vacant d n) from rfl, hfile]; simp)
  | found L =>
    rcases hold with ⟨hnone, -⟩ | ⟨old, hfile, rfl⟩
    · rcases hr.of_writing.kind with hd | ⟨content, hc⟩
      · exact absurd (hnone.symm.trans hd) (by simp)
      · exact absurd (hnone.symm.trans hc) (by simp)
    · exact ⟨old, .inl (read_of_leads hr.of_writing hfile), hread⟩

/-- writing opens no new way -/
theorem edit_keepsWays {fs fs' : FileStore} {p : Path} {change : List UInt8 → List UInt8}
    (h : fs.edit p change = .ok fs') : fs'.KeepsWays fs := by
  obtain ⟨r, c, -, -, -, hplaced, -⟩ := edit_eq_ok h
  have hkeep : ∀ {l : Location} {k : Kind}, fs'.root.view l = some k → (∀ c, k ≠ .file c) →
      fs.root.view l = some k := by
    intro l k hl hk
    by_cases hloc : l = r.loc
    · subst hloc
      exact absurd (Option.some.inj (hl.symm.trans hplaced.view_self)) (hk c)
    · rw [← hplaced.view_of_ne hloc, hl]
  exact ⟨hplaced.cwd.symm, fun l hl => hkeep hl (by simp), fun l t hl => hkeep hl (by simp)⟩

/-- writing makes no directory and takes none away -/
theorem edit_isDir {fs fs' : FileStore} {p : Path} {change : List UInt8 → List UInt8}
    (h : fs.edit p change = .ok fs') (q : Path) : fs'.isDir q = fs.isDir q := by
  rw [Bool.eq_iff_iff]
  exact ⟨(edit_keepsWays h).isDir, (edit_extends h).isDir⟩

/-! ## Making directories -/

/-- making a directory puts it at a free name -/
theorem makeDir_eq_ok {fs fs' : FileStore} {p : Path} (h : fs.makeDir p = .ok fs') :
    ∃ d n, fs.Leads .itself (dropSlashes p) (.vacant d n) ∧ fs.Placed (d ++ [n]) .dir fs' ∧
      p.bytes.length ≤ pathLimit := by
  rw [makeDir] at h
  split_ifs at h with hlong
  split at h
  · rename_i dir n hs
    obtain rfl := Except.ok.inj h
    obtain ⟨hr, hplaced⟩ := placed_vacant hs Node.view_empty
    refine ⟨dir, n, hr, hplaced, ?_⟩
    -- the path is clean, for its part without slashes at the end is
    have hclean : 0 ∉ p.bytes := by
      obtain ⟨⟨k, hk⟩, -⟩ := bytes_dropSlashes p
      have h0 := hr.clean
      rw [hk]
      simp [h0, Path.slash]
    exact (by simpa using hlong : 0 ∉ p.bytes → p.bytes.length ≤ pathLimit) hclean
  · cases h
  · cases h

theorem makeDir_extends {fs fs' : FileStore} {p : Path} (h : fs.makeDir p = .ok fs') : fs.Extends fs' := by
  obtain ⟨d, n, hr, hplaced, -⟩ := makeDir_eq_ok h
  exact hplaced.extends (.inl hr.reach.vacant.2)

theorem makeDir_leads {fs fs' : FileStore} {p : Path} (h : fs.makeDir p = .ok fs') :
    ∃ d n, fs'.Leads .target p (.found (d ++ [n])) ∧ fs.root.view (d ++ [n]) = none ∧
      fs.Placed (d ++ [n]) .dir fs' := by
  obtain ⟨d, n, hr, hplaced, hshort⟩ := makeDir_eq_ok h
  have hd := hplaced.view_self
  have hleads := hr.retrace (makeDir_extends h).toKeepsWays (.inl hd)
  exact ⟨d, n, leads_of_dropSlashes hshort hleads hd, hr.reach.vacant.2, hplaced⟩

theorem makeDir_of_pathExists {fs : FileStore} {p : Path} (h : fs.pathExists p = true) :
    fs.makeDir p = .error .exists := by
  obtain ⟨L, hL⟩ := pathExists_iff.1 h
  obtain ⟨L', hL'⟩ := hL.dropSlashes
  have hshort : ¬ p.bytes.length > pathLimit := Nat.not_lt.2 hL.short
  rw [makeDir, if_neg (by simp [hshort]), hL'.lookup]
  rfl

/-- a directory that is there is not made again -/
theorem makeDirs_of_isDir {fs : FileStore} {p : Path} (h : fs.isDir p = true) : fs.makeDirs p = (.ok (), fs) := by
  obtain ⟨L, hL, -⟩ := isDir_iff.1 h
  rw [makeDirs, if_neg hL.nonempty, makeDir_of_pathExists (pathExists_iff.2 ⟨L, hL⟩)]
  simp [h]

/-- making a directory and those above it, step by step; the truth value tells whether it is there now -/
inductive Makes (fs : FileStore) : Path → Bool → FileStore → Prop
  | empty {p : Path} : p.bytes = [] → Makes fs p true fs
  | made {p : Path} {fs' : FileStore} : fs.makeDir p = .ok fs' → Makes fs p true fs'
  | there {p : Path} : fs.isDir p = true → Makes fs p true fs
  | failed {p : Path} : Makes fs p false fs
  | aboveMade {p q : Path} {fs' fs'' : FileStore} : p.parent? = some q → Makes fs q true fs' →
      fs'.makeDir p = .ok fs'' → Makes fs p true fs''
  | aboveThere {p q : Path} {fs' : FileStore} : p.parent? = some q → Makes fs q true fs' →
      (fs.isDir q = true → fs' = fs) → fs'.isDir p = true → Makes fs p true fs'
  | aboveFailed {p q : Path} {fs' : FileStore} {ok : Bool} : p.parent? = some q → Makes fs q ok fs' →
      Makes fs p false fs'

theorem makes_makeDirs (fs : FileStore) (p : Path) : Makes fs p (fs.makeDirs p).1.isOk (fs.makeDirs p).2 := by
  fun_induction makeDirs fs p with
  | case1 p hp => exact .empty hp
  | case2 p hp fs' h => exact .made h
  | case3 p hp h hq => exact .failed
  | case4 p hp h q hq e fs' hfs' ih => rw [hfs'] at ih; exact .aboveFailed hq ih
  | case5 p hp h q hq fs' hfs' fs'' hmade ih => rw [hfs'] at ih; exact .aboveMade hq ih hmade
  | case6 p hp h q hq fs' hfs' e hmade ih =>
    rw [hfs'] at ih
    split_ifs with hd
    · refine .aboveThere hq ih (fun hqd => ?_) hd
      exact (Prod.mk.inj (hfs'.symm.trans (makeDirs_of_isDir hqd))).2
    · exact .aboveFailed hq ih
  | case7 p hp e he h =>
    split_ifs with hd
    · exact .there hd
    · exact .failed

theorem makes_of_makeDirs {fs fs' : FileStore} {p : Path} (h : fs.makeDirs p = (.ok (), fs')) :
    fs.Makes p true fs' := by
  have hmakes := makes_makeDirs fs p
  rw [h] at hmakes
  exact hmakes

theorem Makes.eq_of_nil {fs fs' : FileStore} {p : Path} (h : fs.Makes p true fs') (hp : p.bytes = []) : fs' = fs := by
  have hnone : p.parent? = none := by simp [Path.parent?, hp, Path.trimReversed]
  cases h with
  | empty => rfl
  | made h =>
    obtain ⟨_, _, hL, -⟩ := makeDir_leads h
    exact absurd hp hL.nonempty
  | there => rfl
  | aboveMade hq => simp [hnone] at hq
  | aboveThere hq => simp [hnone] at hq

/-- making a directory with those above it gives a directory -/
theorem makeDirs_isDir {fs fs' : FileStore} {p : Path} (hp : p.bytes ≠ []) (h : fs.makeDirs p = (.ok (), fs')) :
    fs'.isDir p = true := by
  have hmade : ∀ {fs fs' : FileStore}, fs.makeDir p = .ok fs' → fs'.isDir p = true := by
    intro fs fs' h
    obtain ⟨d, n, hL, -, hplaced⟩ := makeDir_leads h
    exact isDir_iff.2 ⟨_, hL, hplaced.view_self⟩
  cases makes_of_makeDirs h with
  | empty hnil => exact absurd hnil hp
  | made h => exact hmade h
  | there hd => exact hd
  | aboveMade _ _ h => exact hmade h
  | aboveThere _ _ _ h => exact h

/-- a directory that was not there is empty when it has been made, unless its path goes up somewhere -/
theorem makeDirs_fresh {fs fs' : FileStore} {p : Path} (hp : p.bytes ≠ []) (hup : [Path.dot, Path.dot] ∉ segmentsOf p)
    (hd : fs.isDir p = false) (h : fs.makeDirs p = (.ok (), fs')) :
    ∃ L, fs'.Leads .target p (.found L) ∧ fs'.root.view L = some .dir ∧ ∀ n, fs'.root.view (L ++ [n]) = none := by
  have hmade : ∀ {p : Path} {fs fs' : FileStore}, fs.makeDir p = .ok fs' →
      ∃ L, fs'.Leads .target p (.found L) ∧ fs'.root.view L = some .dir ∧ ∀ n, fs'.root.view (L ++ [n]) = none := by
    intro p fs fs' h
    obtain ⟨d, n, hL, hnone, hplaced⟩ := makeDir_leads h
    refine ⟨d ++ [n], hL, hplaced.view_self, fun m => ?_⟩
    rw [hplaced.view_of_ne (by simp)]
    exact Node.view_append_eq_none (by simp [hnone]) (by simp)
  replace h := makes_of_makeDirs h
  generalize hok : true = ok at h
  induction h with
  | empty h => exact absurd h hp
  | made h => exact hmade h
  | there h => simp [h] at hd
  | failed => cases hok
  | aboveMade _ _ h => exact hmade h
  | @aboveThere p q fs' hq hmakes hkeep hdir ih =>
    obtain ⟨L, hL, -⟩ := isDir_iff.1 hdir
    have hnew : fs' ≠ fs := by rintro rfl; simp [hdir] at hd
    have hqd : fs.isDir q = false := by simpa using mt hkeep hnew
    have hqne : q.bytes ≠ [] := fun hnil => hnew (hmakes.eq_of_nil hnil)
    have hqup : [Path.dot, Path.dot] ∉ segmentsOf q := fun hm => hup (Path.segmentsOf_parent_subset hq hm)
    obtain ⟨L', hL', -, hfresh⟩ := ih hqne hqup hqd rfl
    obtain ⟨M, n, hM, hn⟩ := hL.above hq hqne hup
    obtain rfl := Place.found.inj (hM.unique hL')
    exact absurd (hfresh n) hn
  | aboveFailed => cases hok

theorem Makes.extends {fs fs' : FileStore} {p : Path} {ok : Bool} (h : fs.Makes p ok fs') : fs.Extends fs' := by
  induction h with
  | empty => exact .refl fs
  | made h => exact makeDir_extends h
  | there => exact .refl fs
  | failed => exact .refl fs
  | aboveMade _ _ h ih => exact ih.trans (makeDir_extends h)
  | aboveThere _ _ _ _ ih => exact ih
  | aboveFailed _ _ ih => exact ih

/-! ## Laying out a tree -/

theorem allowExecution_extends {fs fs' : FileStore} {p : Path} (h : fs.allowExecution p = .ok fs') :
    fs.Extends fs' := by
  rw [allowExecution] at h
  split at h
  · rename_i loc content executable hs
    obtain rfl := Except.ok.inj h
    obtain ⟨-, hv, hplaced⟩ := placed_found hs content true
    exact hplaced.extends (.inr ⟨content, content, hv, rfl⟩)
  · obtain rfl := Except.ok.inj h
    exact .refl fs
  · cases h

theorem makeLink_extends {fs fs' : FileStore} {p target : Path} (h : fs.makeLink p target = .ok fs') :
    fs.Extends fs' := by
  rw [makeLink] at h
  split at h
  · rename_i dir n hs
    obtain rfl := Except.ok.inj h
    obtain ⟨hr, hplaced⟩ := placed_vacant (y := .link target) hs (Node.view_of_ne_dir (by simp [Node.kind]))
    exact hplaced.extends (.inl hr.reach.vacant.2)
  · cases h
  · cases h

theorem makeDirs_extends {fs fs' : FileStore} {p : Path} (h : whole (fs.makeDirs p) = .ok fs') : fs.Extends fs' := by
  have hmakes := makes_makeDirs fs p
  rcases hr : fs.makeDirs p with ⟨e | u, fs''⟩
  · rw [hr] at h
    cases h
  · rw [hr] at h hmakes
    obtain rfl := Except.ok.inj h
    exact hmakes.extends

theorem bind_eq_ok {ε α β : Type} {x : Except ε α} {f : α → Except ε β} {b : β} (h : x >>= f = .ok b) :
    ∃ a, x = .ok a ∧ f a = .ok b := by
  cases x with
  | error e => cases h
  | ok a => exact ⟨a, rfl, h⟩

theorem layItem_extends {base : Path} {fs fs' : FileStore} {item : Item} (h : layItem base fs item = .ok fs') :
    fs.Extends fs' := by
  cases item with
  | dir p => exact makeDirs_extends h
  | file p content executable =>
    obtain ⟨fs₁, h₁, h⟩ := bind_eq_ok h
    obtain ⟨fs₂, h₂, h⟩ := bind_eq_ok h
    refine ((makeDirs_extends h₁).trans (edit_extends h₂)).trans ?_
    cases executable with
    | true => exact allowExecution_extends h
    | false => obtain rfl := Except.ok.inj h; exact .refl fs₂
  | link p target =>
    obtain ⟨fs₁, h₁, h⟩ := bind_eq_ok h
    exact (makeDirs_extends h₁).trans (makeLink_extends h)

/-- laying out a tree takes nothing away -/
theorem layOut_extends {fs fs' : FileStore} {base : Path} {items : List Item} (h : fs.layOut base items = .ok fs') :
    fs.Extends fs' := by
  induction items generalizing fs with
  | nil => obtain rfl := Except.ok.inj h; exact .refl fs
  | cons item items ih =>
    obtain ⟨fs₁, h₁, h⟩ := bind_eq_ok h
    exact (layItem_extends h₁).trans (ih h)

end FileStore

end Benchwork
