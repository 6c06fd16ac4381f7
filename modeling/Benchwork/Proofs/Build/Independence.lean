/-
Repositories that do not depend on each other.

Sessions that keep to different entries of a directory can be run in either order (`Confined.commute`): neither of them
notices that the other one came first, and the files are the same in the end. So can the processing of two repositories
(`repositories_independent`), where the directory of repositories is there. Where it is not, the first clone that
succeeds may make it; processing then goes as if the directory had been there before (`Resident.idle_or_sameRun`), or it
fails and leaves nothing behind. This takes a path that does not lead through the repositories themselves, or the order
matters (`order_matters_through_repository`).
-/
import Benchwork.Build.Scripted
import Benchwork.Proofs.Build.Confinement
import Benchwork.Proofs.Build.Founder

namespace Benchwork.Build.Repository

open Benchwork.Text Session FileStore

variable {σ α β : Type} {shop : Workshop} {runner : Runner σ} {s : Site} {n m : Name}

/-! ## Two sessions in either order -/

/-- a session has the same result and issues the same commands in two worlds -/
structure SameCourse (x : Session σ α) (w v : World σ) : Prop where
  result : (x.exec v).1 = (x.exec w).1
  issued : ∃ log, (x.exec w).2.issued = w.issued ++ log ∧ (x.exec v).2.issued = v.issued ++ log

/-- two sessions can be run in either order: neither of them notices that the other one came first, and the files are
the same in the end -/
structure Independent (x : Session σ α) (y : Session σ β) (w : World σ) : Prop where
  first : SameCourse x w (y.exec w).2
  second : SameCourse y w (x.exec w).2
  files : (x.exec (y.exec w).2).2.files = (y.exec (x.exec w).2).2.files

theorem Confined.sameCourse {x : Session σ α} {w v : World σ} (hx : Confined s n x) (h : s.Alike n w.files v.files) :
    SameCourse x w v := by
  obtain ⟨hresult, log, cs, hpar⟩ := hx w v h
  exact ⟨hresult, log, hpar.issued, hpar.issued'⟩

/-- a session that keeps to one entry leaves the others as they are -/
theorem Confined.alike_after {x : Session σ α} {w : World σ} (hx : Confined s n x) (hn : s.Holds n w.files)
    (hm : s.Holds m w.files) (hmn : m ≠ n) : s.Alike m w.files (x.exec w).2.files := by
  obtain ⟨-, _, cs, hpar⟩ := hx w w ⟨hn, hn, rfl⟩
  exact .of_amend hm hpar.alike.left hmn hpar.root

/-- sessions that keep to different entries can be run in either order -/
theorem Confined.commute {x : Session σ α} {y : Session σ β} {w : World σ} (hx : Confined s n x) (hy : Confined s m y)
    (hnm : n ≠ m) (hn : s.Holds n w.files) (hm : s.Holds m w.files) (htidy : w.files.root.Tidy s.loc) :
    Independent x y w := by
  have hafter := hx.alike_after hn hm hnm.symm
  have hafter' := hy.alike_after hm hn hnm
  obtain ⟨-, _, cs, hpar⟩ := hx w _ hafter'
  obtain ⟨-, _, ds, hpar'⟩ := hy w _ hafter
  refine ⟨hx.sameCourse hafter', hy.sameCourse hafter, ?_⟩
  have hroot : (x.exec (y.exec w).2).2.files.root = (y.exec (x.exec w).2).2.files.root := by
    rw [hpar.root', hpar'.root, hpar'.root', hpar.root]
    exact (Node.amend_comm htidy hnm cs ds).symm
  exact FileStore.ext_of_root hroot (hpar.alike.right.cwd.trans hpar'.alike.right.cwd.symm)

/-! ## The directory of repositories -/

theorem SameCourse.symm {x : Session σ α} {w v : World σ} (h : SameCourse x w v) : SameCourse x v w := by
  obtain ⟨log, hw, hv⟩ := h.issued
  exact ⟨h.result.symm, log, hv, hw⟩

theorem SameCourse.trans {x : Session σ α} {u v w : World σ} (h : SameCourse x u v) (h' : SameCourse x v w) :
    SameCourse x u w := by
  obtain ⟨log, hu, hv⟩ := h.issued
  obtain ⟨log', hv', hw⟩ := h'.issued
  obtain rfl : log = log' := List.append_cancel_left (hv.symm.trans hv')
  exact ⟨h'.result.trans h.result, log, hu, hw⟩

/-- a session also leaves the same files in two worlds -/
structure SameRun (x : Session σ α) (w v : World σ) : Prop extends SameCourse x w v where
  files : (x.exec v).2.files = (x.exec w).2.files

theorem SameRun.symm {x : Session σ α} {w v : World σ} (h : SameRun x w v) : SameRun x v w :=
  ⟨h.toSameCourse.symm, h.files.symm⟩

theorem SameRun.trans {x : Session σ α} {u v w : World σ} (h : SameRun x u v) (h' : SameRun x v w) : SameRun x u w :=
  ⟨h.toSameCourse.trans h'.toSameCourse, h'.files.trans h.files⟩

theorem SameRun.of_exec_eq {x y : Session σ α} {w v : World σ} (h : SameRun y w v) (hw : x.exec w = y.exec w)
    (hv : x.exec v = y.exec v) : SameRun x w v := by
  refine ⟨⟨?_, ?_⟩, ?_⟩
  · rw [hw, hv, h.result]
  · rw [hw, hv]
    exact h.issued
  · rw [hw, hv, h.files]

/-- a session runs the same after a command that succeeded in both worlds -/
theorem SameRun.after {x : Session σ α} {c : Command} {w v : World σ} (hw : w.answer runner c = .ok ())
    (hv : v.answer runner c = .ok ()) (h : SameRun x (w.after runner c) (v.after runner c)) :
    SameRun (issue runner c >>= fun _ => x) w v := by
  obtain ⟨log, hlog, hlog'⟩ := h.issued
  have hexec : ∀ {u : World σ}, u.answer runner c = .ok () →
      (issue runner c >>= fun _ => x).exec u = x.exec (u.after runner c) :=
    fun hu => exec_bind_ok (by rw [exec_issue, hu])
  refine ⟨⟨?_, ⟨c, .ok ()⟩ :: log, ?_, ?_⟩, ?_⟩
  · rw [hexec hw, hexec hv, h.result]
  · rw [hexec hw, hlog, World.issued_after, hw, List.append_assoc, List.singleton_append]
  · rw [hexec hv, hlog', World.issued_after, hv, List.append_assoc, List.singleton_append]
  · rw [hexec hw, hexec hv, h.files]

/-- a session that keeps to an entry goes by the files, not by what the runner remembers or what was issued before -/
theorem Confined.sameRun {x : Session σ α} {w v : World σ} (hx : Confined s n x) (h : s.Holds n w.files)
    (hfiles : v.files = w.files) : SameRun x w v := by
  have halike : s.Alike n w.files v.files := by
    rw [hfiles]
    exact ⟨h, h, rfl⟩
  obtain ⟨-, _, cs, hpar⟩ := hx w v halike
  refine ⟨hx.sameCourse halike, FileStore.ext_of_root ?_ (hpar.alike.right.cwd.trans hpar.alike.left.cwd.symm)⟩
  rw [hpar.root, hpar.root', hfiles]

theorem Independent.symm {x : Session σ α} {y : Session σ β} {w : World σ} (h : Independent x y w) :
    Independent y x w :=
  ⟨h.second, h.first, h.files.symm⟩

/-- two sessions that run as they do in another world can be run in either order if they can there -/
theorem Independent.of_sameRun {x : Session σ α} {y : Session σ β} {w v : World σ} (h : Independent x y v)
    (hx : SameRun x v w) (hy : SameRun y v w) (hx' : SameRun x (y.exec v).2 (y.exec w).2)
    (hy' : SameRun y (x.exec v).2 (x.exec w).2) : Independent x y w where
  first := (hx.toSameCourse.symm.trans h.first).trans hx'.toSameCourse
  second := (hy.toSameCourse.symm.trans h.second).trans hy'.toSameCourse
  files := by rw [hx'.files, hy'.files, h.files]

/-- the session fails with one and the same failure and leaves the files alone, wherever they are as said -/
def Idle (x : Session σ α) (P : FileStore → Prop) : Prop :=
  ∃ err log, ∀ u : World σ, P u.files →
    (x.exec u).1 = .error err ∧ (x.exec u).2.issued = u.issued ++ log ∧ (x.exec u).2.files = u.files

theorem Idle.sameCourse {x : Session σ α} {P : FileStore → Prop} (h : Idle x P) {u v : World σ} (hu : P u.files)
    (hv : P v.files) : SameCourse x u v := by
  obtain ⟨err, log, hidle⟩ := h
  obtain ⟨hresult, hissued, -⟩ := hidle u hu
  obtain ⟨hresult', hissued', -⟩ := hidle v hv
  exact ⟨hresult'.trans hresult.symm, log, hissued, hissued'⟩

theorem Idle.files {x : Session σ α} {P : FileStore → Prop} (h : Idle x P) {u : World σ} (hu : P u.files) :
    (x.exec u).2.files = u.files := by
  obtain ⟨err, log, hidle⟩ := h
  exact (hidle u hu).2.2

/-- a session that does nothing can be run before or after another one -/
theorem Idle.independent {x : Session σ α} {y : Session σ β} {P : FileStore → Prop} {w : World σ} (hx : Idle x P)
    (hw : P w.files) (hafter : P (y.exec w).2.files) (hy : ∀ v : World σ, v.files = w.files → SameRun y w v) :
    Independent x y w := by
  have hrun := hy (x.exec w).2 (hx.files hw)
  refine ⟨hx.sameCourse hw hafter, hrun.toSameCourse, ?_⟩
  rw [hx.files hafter, hrun.files]

/-- the directory of repositories is not there, and `home` are the files once it is made -/
structure Unmade (shop : Workshop) (fs home : FileStore) : Prop where
  nonempty : shop.reposDir.bytes ≠ []
  straight : [Path.dot, Path.dot] ∉ segmentsOf shop.reposDir
  absent : fs.isDir shop.reposDir = false
  made : fs.makeDirs shop.reposDir = (.ok (), home)

/-- a repository is missing: nothing is at its entry, or there is not even the directory for it -/
def Missing (s : Site) (n : Name) (fs : FileStore) (fs' : FileStore) : Prop :=
  fs' = fs ∨ s.Holds n fs' ∧ fs'.root.get? (s.entry n) = none

/-- a clone makes the directory of repositories where it is missing, and one that fails leaves nothing behind -/
structure Founds (shop : Workshop) (runner : Runner σ) (s : Site) (e : ManifestEntry) (fs home : FileStore) : Prop where
  answer : ∀ (u : World σ) (text : String), (shop.dirOf e).text? = some text → u.files = fs →
    u.answer runner (cloneCommand e.url text) = World.answer { u with files := home } runner (cloneCommand e.url text)
  made : ∀ (u : World σ) (text : String), (shop.dirOf e).text? = some text → u.files = fs →
    u.answer runner (cloneCommand e.url text) = .ok () →
    (u.after runner (cloneCommand e.url text)).files =
      (World.after { u with files := home } runner (cloneCommand e.url text)).files
  failed : ∀ (u : World σ) (text : String) (err : BuildError), (shop.dirOf e).text? = some text →
    Missing s e.dirName fs u.files → u.answer runner (cloneCommand e.url text) = .error err →
    (u.after runner (cloneCommand e.url text)).files = u.files

/-- the directory of repositories is there, or the first clone that succeeds makes it -/
inductive AtHome (shop : Workshop) (runner : Runner σ) (s : Site) (e₁ e₂ : ManifestEntry) (fs : FileStore) :
    FileStore → Prop
  | there : AtHome shop runner s e₁ e₂ fs fs
  | made {home : FileStore} : Unmade shop fs home → Founds shop runner s e₁ fs home →
      Founds shop runner s e₂ fs home → AtHome shop runner s e₁ e₂ fs home

theorem Unmade.pathExists {fs home : FileStore} (h : Unmade shop fs home) {e : ManifestEntry}
    (hn : Path.IsOrdinary e.dirName) : fs.pathExists (shop.dirOf e) = false := by
  rw [← Bool.not_eq_true, FileStore.pathExists_iff]
  rintro ⟨L, hL⟩
  obtain ⟨R, -, hR, hd, -⟩ := Leads.parent hn h.nonempty hL
  have hthere : fs.isDir shop.reposDir = true := FileStore.isDir_iff.2 ⟨R, hR, hd⟩
  rw [h.absent] at hthere
  cases hthere

theorem Unmade.get?_entry {fs home : FileStore} (h : Unmade shop fs home) (hpath : s.path = shop.reposDir)
    (hholds : s.Holds n home) : home.root.get? (s.entry n) = none := by
  obtain ⟨L, hL, hd, hfresh⟩ := FileStore.makeDirs_fresh h.nonempty h.straight h.absent h.made
  have henters := hholds.enters
  rw [hpath] at henters
  obtain rfl : s.loc = L := henters.unique (hL.enters hd)
  exact Node.view_eq_none.1 (hfresh n)

/-- a repository of the directory, with an ordinary name, without a link, and with commands that keep to it -/
structure Resident (shop : Workshop) (runner : Runner σ) (s : Site) (home : FileStore) (e : ManifestEntry) : Prop where
  path : s.path = shop.reposDir
  ordinary : Path.IsOrdinary e.dirName
  holds : s.Holds e.dirName home
  acts : ∀ c, Concerns shop s e c → ActsOn runner s e.dirName c

section Resident

variable {e : ManifestEntry} {fs home : FileStore}

theorem Resident.dirOf (h : Resident shop runner s home e) : shop.dirOf e = s.pathOf e.dirName := by
  rw [Workshop.dirOf_eq, Site.pathOf, h.path]

theorem Resident.confined (h : Resident shop runner s home e) : Confined s e.dirName (process shop runner e) :=
  process_confined h.dirOf h.ordinary h.acts

/-- where the directory of repositories is not there, processing a repository does nothing, or it goes as it does where
the directory is -/
theorem Resident.idle_or_sameRun (h : Resident shop runner s home e) (hhome : Unmade shop fs home)
    (hfounds : Founds shop runner s e fs home) :
    Idle (process shop runner e) (Missing s e.dirName fs) ∨
      ∀ u : World σ, u.files = fs → SameRun (process shop runner e) { u with files := home } u := by
  cases ht : (shop.dirOf e).text? with
  | none =>
    refine .inl ⟨.pathNotText (shop.dirOf e), [], fun u _ => ?_⟩
    rw [process_of_notText ht]
    exact ⟨rfl, by simp, rfl⟩
  | some text =>
    obtain ⟨act, hact⟩ := h.acts _ (.clone ht)
    have hnone := hhome.get?_entry h.path h.holds
    have hmissing : ∀ u : World σ, Missing s e.dirName fs u.files →
        u.files.pathExists (shop.dirOf e) = false ∧ u.answer runner (cloneCommand e.url text) = (act none).1 := by
      rintro u (rfl | ⟨hu, hunone⟩)
      · refine ⟨hhome.pathExists h.ordinary, ?_⟩
        rw [hfounds.answer u text ht rfl, (hact { u with files := home } h.holds).1, hnone]
      · refine ⟨?_, ?_⟩
        · rw [h.dirOf]
          exact hu.pathExists_of_none h.ordinary hunone
        · rw [(hact u hu).1, hunone]
    have hexec : ∀ u : World σ, Missing s e.dirName fs u.files → (process shop runner e).exec u =
        (issue runner (cloneCommand e.url text) >>= fun _ => settle shop runner e).exec u := by
      intro u hu
      rw [exec_process ht, (hmissing u hu).1, if_neg (by simp)]
    cases hanswer : (act none).1 with
    | error err =>
      refine .inl ⟨err, [⟨cloneCommand e.url text, .error err⟩], fun u hu => ?_⟩
      have hu' := (hmissing u hu).2.trans hanswer
      rw [hexec u hu, exec_bind_error (by rw [exec_issue, hu'])]
      exact ⟨rfl, by rw [World.issued_after, hu'], hfounds.failed u text err ht hu hu'⟩
    | ok _ =>
      refine .inr fun u hu => ?_
      have hv : Missing s e.dirName fs home := .inr ⟨h.holds, hnone⟩
      have hu' : u.answer runner (cloneCommand e.url text) = .ok () := (hmissing u (.inl hu)).2.trans hanswer
      have hv' : World.answer { u with files := home } runner (cloneCommand e.url text) = .ok () :=
        (hmissing { u with files := home } hv).2.trans hanswer
      have hsettle := (settle_confined h.dirOf h.ordinary h.acts).sameRun (hact { u with files := home } h.holds).2.2
        (hfounds.made u text ht hu hu')
      exact (SameRun.after hv' hu' hsettle).of_exec_eq (hexec _ hv) (hexec u (.inl hu))

/-- also where the directory of repositories is not there, processing goes by the files -/
theorem Resident.sameRun (h : Resident shop runner s home e) (hhome : Unmade shop fs home)
    (hfounds : Founds shop runner s e fs home) {u v : World σ} (hu : u.files = fs) (hv : v.files = fs) :
    SameRun (process shop runner e) u v := by
  rcases h.idle_or_sameRun hhome hfounds with hidle | hrun
  · refine ⟨hidle.sameCourse (.inl hu) (.inl hv), ?_⟩
    rw [hidle.files (.inl hu), hidle.files (.inl hv), hu, hv]
  · have hsame : SameRun (process shop runner e) { u with files := home } { v with files := home } :=
      h.confined.sameRun h.holds rfl
    exact ((hrun u hu).symm.trans hsame).trans (hrun v hv)

/-- processing one repository does not bring another one -/
theorem Resident.missing_after (h : Resident shop runner s home e) (hhome : Unmade shop fs home)
    (hfounds : Founds shop runner s e fs home) {u : World σ} (hu : u.files = fs) (hm : s.Holds m home)
    (hne : m ≠ e.dirName) : Missing s m fs ((process shop runner e).exec u).2.files := by
  rcases h.idle_or_sameRun hhome hfounds with hidle | hrun
  · exact .inl ((hidle.files (.inl hu)).trans hu)
  · have hother := h.confined.alike_after (w := { u with files := home }) h.holds hm hne
    rw [(hrun u hu).files]
    exact .inr ⟨hother.right, hother.same.trans (hhome.get?_entry h.path hm)⟩

end Resident

/-- **Two repositories can be processed in either order.** Where they have different ordinary names and commands keep
to the repository that they are for, neither call notices whether the other one came first, and the files are the same
in the end. -/
theorem repositories_independent {e₁ e₂ : ManifestEntry} {w : World σ} {home : FileStore}
    (hhome : AtHome shop runner s e₁ e₂ w.files home) (htidy : home.root.Tidy s.loc)
    (h₁ : Resident shop runner s home e₁) (h₂ : Resident shop runner s home e₂) (hne : e₁.dirName ≠ e₂.dirName) :
    Independent (process shop runner e₁) (process shop runner e₂) w := by
  have hcommute : ∀ w : World σ, w.files = home →
      Independent (process shop runner e₁) (process shop runner e₂) w := by
    rintro w rfl
    exact h₁.confined.commute h₂.confined hne h₁.holds h₂.holds htidy
  cases hhome with
  | there => exact hcommute w rfl
  | made hunmade hfounds₁ hfounds₂ =>
    rcases h₁.idle_or_sameRun hunmade hfounds₁ with hidle | hrun₁
    · exact hidle.independent (.inl rfl) (h₂.missing_after hunmade hfounds₂ rfl h₁.holds hne)
        fun v hv => h₂.sameRun hunmade hfounds₂ rfl hv
    rcases h₂.idle_or_sameRun hunmade hfounds₂ with hidle | hrun₂
    · exact (hidle.independent (.inl rfl) (h₁.missing_after hunmade hfounds₁ rfl h₂.holds hne.symm)
        fun v hv => h₁.sameRun hunmade hfounds₁ rfl hv).symm
    -- both repositories are cloned, so both are processed as if the directory had been there before
    have hafter₁ := h₁.confined.alike_after (w := { w with files := home }) h₁.holds h₂.holds hne.symm
    have hafter₂ := h₂.confined.alike_after (w := { w with files := home }) h₂.holds h₁.holds hne
    exact (hcommute { w with files := home } rfl).of_sameRun (hrun₁ w rfl) (hrun₂ w rfl)
      (h₁.confined.sameRun hafter₂.right (hrun₂ w rfl).files) (h₂.confined.sameRun hafter₁.right (hrun₁ w rfl).files)

/-- the order matters if the path of the directory leads through a repository: only when that one has been cloned, the
other one is found -/
theorem order_matters_through_repository :
    let shop : Workshop := ⟨Path.ofString "repos/a/..", [⟨"jdk", "/jdk"⟩]⟩
    let a : ManifestEntry := ⟨"https://example.com/a", "v1"⟩
    let b : ManifestEntry := ⟨"https://example.com/b", "v1"⟩
    let runner := Scripted.runner [] [(a.url, [.file (Path.ofString Descriptor.maven) [] false])]
    let w : World Nat := ⟨⟨.dir [(reposName, .dir [(b.dirName, mavenProject)])], []⟩, 0, []⟩
    Path.IsOrdinary a.dirName ∧ Path.IsOrdinary b.dirName ∧ a.dirName ≠ b.dirName ∧
      w.files.root.Proper ∧ (w.after runner (cloneCommand a.url "repos/a/../a")).files.root.Proper ∧
      (∀ c calls fs, runner.run c calls fs = (.ok (), calls + 1, (runner.run c 0 fs).2.2)) ∧
      (∀ p ∈ Node.additions w.files.root (w.after runner (cloneCommand a.url "repos/a/../a")).files.root,
        [reposName, a.dirName] <+: p.1) ∧
      ((process shop runner b).exec w).1 = .error (.file (inside (shop.dirOf b) ".gitignore") (.fault .notFound)) ∧
      ((process shop runner b).exec ((process shop runner a).exec w).2).1 = .ok .built ∧
      ¬ Independent (process shop runner a) (process shop runner b) w := by
  intro shop a b runner w
  have hfirst : ((process shop runner b).exec w).1 =
      .error (.file (inside (shop.dirOf b) ".gitignore") (.fault .notFound)) := by
    decide +kernel
  have hsecond : ((process shop runner b).exec ((process shop runner a).exec w).2).1 = .ok .built := by decide +kernel
  refine ⟨by decide +kernel, by decide +kernel, by decide +kernel, by decide +kernel, by decide +kernel,
    fun c calls fs => rfl, by decide +kernel, hfirst, hsecond, fun h => ?_⟩
  have hresult := h.second.result
  rw [hfirst, hsecond] at hresult
  cases hresult

/-! ## A runner that makes the directory of repositories -/

def reposSite : Site := ⟨reposShop.reposDir, [], [reposName]⟩

/-- clones of hosted projects make `repos` if it is not there and put the project's tree below it if that place is free;
any other command succeeds and does nothing -/
def pioneer (hosted : List Hosted) : Runner Unit where
  run c _ fs :=
    match hosted.find? (·.cloning = c) with
    | none => (.ok (), (), fs.root)
    | some h =>
      let made := (fs.makeDirs reposShop.reposDir).2
      if (made.root.get? [reposName, h.dirName]).isNone then
        (.ok (), (), (made.put [reposName, h.dirName] h.tree).root)
      else (.error (.commandFailed c.line (some 128)), (), fs.root)

theorem makeDirs_repos {fs : FileStore} (h : reposSite.Holds n fs) :
    fs.makeDirs reposShop.reposDir = (.ok (), fs) :=
  FileStore.makeDirs_of_isDir (FileStore.isDir_iff.2 ⟨_, leads_repos h.cwd h.enters.dir, h.enters.dir⟩)

theorem dirName_of_concerns {h : Hosted} (hvalid : h.Valid) {e : ManifestEntry}
    (hc : Concerns reposShop reposSite e h.cloning) : h.dirName = e.dirName := by
  generalize hcloning : h.cloning = c at hc
  cases hc with
  | clone ht =>
    have hdir := dir_eq_of_cloneCommand hcloning hvalid.text ht
    rw [Workshop.dirOf_eq, Hosted.dir] at hdir
    have hname := Path.join_left_cancel hvalid.ordinary.isAbsolute
      (Path.isAbsolute_of_not_mem e.slash_not_mem_dirName) hdir
    exact Path.mk.inj hname
  | checkout => exact absurd hcloning (cloneCommand_ne_checkoutCommand _ _ _ _)
  | step hline => exact absurd (by rw [← hcloning]; rfl) (program_attempt_ne_git hline _ _)

theorem pioneer_actsOn {hosted : List Hosted} (hvalid : ∀ h ∈ hosted, h.Valid) (hproper : ∀ h ∈ hosted, h.tree.Proper)
    {e : ManifestEntry} {c : Command} (hc : Concerns reposShop reposSite e c) :
    ActsOn (pioneer hosted) reposSite e.dirName c := by
  cases hfind : hosted.find? (·.cloning = c) with
  | none =>
    refine ⟨fun _ => (.ok (), []), fun w hw => ?_⟩
    have hrun : (pioneer hosted).run c w.memory w.files = (.ok (), (), w.files.root) := by simp only [pioneer, hfind]
    rw [World.answer, World.after, hrun]
    exact ⟨rfl, rfl, hw⟩
  | some h =>
    have hmem := List.mem_of_find?_eq_some hfind
    have hcloning : h.cloning = c := by simpa using List.find?_some hfind
    subst hcloning
    have hentry : reposSite.entry e.dirName = [reposName, h.dirName] := by
      rw [dirName_of_concerns (hvalid h hmem) hc]
      rfl
    refine ⟨fun x => if x.isNone then (.ok (), [some h.tree])
      else (.error (.commandFailed h.cloning.line (some 128)), []), fun w hw => ?_⟩
    have hd : w.files.root.view [reposName] = some .dir := hw.enters.dir
    have hrun : (pioneer hosted).run h.cloning w.memory w.files =
        if (w.files.root.get? [reposName, h.dirName]).isNone then
          (.ok (), (), (w.files.put [reposName, h.dirName] h.tree).root)
        else (.error (.commandFailed h.cloning.line (some 128)), (), w.files.root) := by
      simp only [pioneer, hfind, makeDirs_repos hw]
    rw [hentry, World.answer, World.after, hrun]
    cases hx : w.files.root.get? [reposName, h.dirName] with
    | some x => exact ⟨rfl, rfl, hw⟩
    | none =>
      refine ⟨rfl, rfl, hw.cwd, ?_, fun x hx' => ?_⟩
      · exact hw.enters.retrace (FileStore.put_extends hd (Node.view_eq_none.2 hx) h.tree).toKeepsWays
      · have hself := (Node.get?_replace hd h.dirName h.dirName (some h.tree)).trans (if_pos rfl)
        rw [hentry] at hx'
        obtain rfl := Option.some.inj (hself.symm.trans hx')
        exact hproper h hmem

def bareStore : FileStore := ⟨.empty, []⟩

def reposStore : FileStore := ⟨.dir [(reposName, .empty)], []⟩

theorem unmade_bareStore : Unmade reposShop bareStore reposStore := by
  refine ⟨by decide +kernel, by decide +kernel, by decide +kernel, ?_⟩
  rw [FileStore.makeDirs, if_neg (by decide +kernel)]
  rfl

theorem holds_reposStore (n : Name) : reposSite.Holds n reposStore :=
  ⟨rfl, (leads_repos rfl rfl).enters rfl, fun x hx => by cases hx⟩

/-- a project that is hosted can be cloned wherever it is missing -/
theorem pioneer_run {hosted : List Hosted} (hvalid : ∀ h ∈ hosted, h.Valid) {e : ManifestEntry} {text : String}
    (ht : (reposShop.dirOf e).text? = some text) (hhosted : ∃ h ∈ hosted, h.url = e.url ∧ h.dirName = e.dirName) :
    ∃ tree, ∀ fs, Missing reposSite e.dirName bareStore fs → (pioneer hosted).run (cloneCommand e.url text) () fs =
      (.ok (), (), ((fs.makeDirs reposShop.reposDir).2.put (reposSite.entry e.dirName) tree).root) := by
  cases hfind : hosted.find? (·.cloning = cloneCommand e.url text) with
  | none =>
    obtain ⟨h, hmem, hurl, hname⟩ := hhosted
    have htext := (hvalid h hmem).text
    rw [Hosted.dir, hname, ← Workshop.dirOf_eq, ht] at htext
    have hcloning : h.cloning = cloneCommand e.url text := by rw [Hosted.cloning, hurl, Option.some.inj htext]
    exact absurd hcloning (by simpa using List.find?_eq_none.1 hfind h hmem)
  | some h =>
    have hcloning : h.cloning = cloneCommand e.url text := by simpa using List.find?_some hfind
    have hname : h.dirName = e.dirName :=
      dirName_of_concerns (hvalid h (List.mem_of_find?_eq_some hfind)) (by rw [hcloning]; exact .clone ht)
    have hentry : reposSite.entry e.dirName = [reposName, h.dirName] := by rw [hname]; rfl
    refine ⟨h.tree, fun fs hfs => ?_⟩
    have hfree : ((fs.makeDirs reposShop.reposDir).2.root.get? [reposName, h.dirName]).isNone = true := by
      rw [← hentry]
      rcases hfs with rfl | ⟨hfs, hnone⟩
      · rw [unmade_bareStore.made, unmade_bareStore.get?_entry rfl (holds_reposStore _)]
        rfl
      · rw [makeDirs_repos hfs, hnone]
        rfl
    simp only [pioneer, hfind, hentry, hfree, if_true]

theorem pioneer_founds {hosted : List Hosted} (hvalid : ∀ h ∈ hosted, h.Valid) {e : ManifestEntry}
    (hhosted : ∃ h ∈ hosted, h.url = e.url ∧ h.dirName = e.dirName) :
    Founds reposShop (pioneer hosted) reposSite e bareStore reposStore := by
  have hhome : Missing reposSite e.dirName bareStore reposStore :=
    .inr ⟨holds_reposStore _, unmade_bareStore.get?_entry rfl (holds_reposStore _)⟩
  refine ⟨fun u text ht hu => ?_, fun u text ht hu _ => ?_, fun u text err ht hu herr => ?_⟩
  · obtain ⟨tree, hrun⟩ := pioneer_run hvalid ht hhosted
    rw [World.answer, World.answer, hrun _ (.inl hu), hrun _ hhome]
  · obtain ⟨tree, hrun⟩ := pioneer_run hvalid ht hhosted
    rw [World.after, World.after, hrun _ (.inl hu), hrun _ hhome, hu, unmade_bareStore.made,
      makeDirs_repos (holds_reposStore e.dirName)]
    rfl
  · obtain ⟨tree, hrun⟩ := pioneer_run hvalid ht hhosted
    rw [World.answer, hrun _ hu] at herr
    cases herr

/-- one of two repositories is built and the other one cannot be, whichever comes first -/
theorem repositories_independent_cloned :
    let a : ManifestEntry := ⟨"https://example.com/a", "v1"⟩
    let b : ManifestEntry := ⟨"https://example.com/b", "v1"⟩
    let runner := pioneer [⟨a.url, "a", mavenProject⟩, ⟨b.url, "b", .empty⟩]
    let w : World Unit := ⟨bareStore, (), []⟩
    let first := (process reposShop runner a).exec w
    let second := (process reposShop runner b).exec first.2
    first.1 = .ok .built ∧ second.1 = .error (.unknownBuildSystem (reposShop.dirOf b) [".gitignore"]) ∧
      second.2.issued.length = 7 ∧ Independent (process reposShop runner a) (process reposShop runner b) w := by
  intro a b runner w first second
  have hresults : first.1 = .ok .built ∧
      second.1 = .error (.unknownBuildSystem (reposShop.dirOf b) [".gitignore"]) ∧ second.2.issued.length = 7 := by
    decide +kernel
  have hvalid : ∀ h ∈ [⟨a.url, "a", mavenProject⟩, (⟨b.url, "b", .empty⟩ : Hosted)], h.Valid := by decide +kernel
  have hproper : ∀ h ∈ [⟨a.url, "a", mavenProject⟩, (⟨b.url, "b", .empty⟩ : Hosted)], h.tree.Proper := by decide +kernel
  have hresident : ∀ e : ManifestEntry, Path.IsOrdinary e.dirName → Resident reposShop runner reposSite reposStore e :=
    fun e hn => ⟨rfl, hn, holds_reposStore _, fun _ => pioneer_actsOn hvalid hproper⟩
  have htidy : reposStore.root.Tidy reposSite.loc := ⟨[], rfl, List.Pairwise.nil⟩
  exact ⟨hresults.1, hresults.2.1, hresults.2.2,
    repositories_independent (.made unmade_bareStore (pioneer_founds hvalid (by decide +kernel))
      (pioneer_founds hvalid (by decide +kernel))) htidy (hresident a (by decide +kernel))
      (hresident b (by decide +kernel)) (by decide +kernel)⟩

end Benchwork.Build.Repository
