/-
What a repository's processing keeps to.

The directory of repositories is a `Site`, and a repository is one entry of it. A session is `Confined` to an entry if
it goes by the tree of that entry and by nothing else, and changes that tree and nothing else: run in two worlds that
have the same tree there, it has the same result, issues the same commands and makes the same changes. Sessions that are
put together from confined ones are confined. So processing a repository is confined to it (`process_confined`), if the
commands that concern the repository are: cloning it, checking it out, and build steps next to what is inside it.
-/
import Benchwork.Proofs.Build.Closest
import Benchwork.Proofs.Build.Stages
import Benchwork.Proofs.Files.Subtree

namespace Benchwork.Build.Repository

open Benchwork.Text Session FileStore

variable {σ α β : Type} {shop : Workshop} {runner : Runner σ} {s : Site} {n m : Name}

/-! ## Sessions that keep to one entry -/

/-- from two worlds, the same commands were issued, and the same changes were made to an entry and to nothing else -/
structure Parallel (s : Site) (n : Name) (w v w' v' : World σ) (log : List Issued) (cs : List (Option Node)) :
    Prop where
  alike : s.Alike n w'.files v'.files
  issued : w'.issued = w.issued ++ log
  issued' : v'.issued = v.issued ++ log
  root : w'.files.root = w.files.root.amend (s.entry n) cs
  root' : v'.files.root = v.files.root.amend (s.entry n) cs

theorem Parallel.refl {w v : World σ} (h : s.Alike n w.files v.files) : Parallel s n w v w v [] [] :=
  ⟨h, by simp, by simp, rfl, rfl⟩

theorem Parallel.trans {w v w₁ v₁ w₂ v₂ : World σ} {log log' : List Issued} {cs ds : List (Option Node)}
    (h : Parallel s n w v w₁ v₁ log cs) (h' : Parallel s n w₁ v₁ w₂ v₂ log' ds) :
    Parallel s n w v w₂ v₂ (log ++ log') (cs ++ ds) where
  alike := h'.alike
  issued := by rw [h'.issued, h.issued, List.append_assoc]
  issued' := by rw [h'.issued', h.issued', List.append_assoc]
  root := by rw [h'.root, h.root, Node.amend_append]
  root' := by rw [h'.root', h.root', Node.amend_append]

/-- the session keeps to an entry: in worlds with the same tree there it has the same result, issues the same commands
and makes the same changes to that tree, and to nothing else -/
def Confined (s : Site) (n : Name) (x : Session σ α) : Prop :=
  ∀ w v : World σ, s.Alike n w.files v.files →
    (x.exec v).1 = (x.exec w).1 ∧ ∃ log cs, Parallel s n w v (x.exec w).2 (x.exec v).2 log cs

theorem Confined.pure (a : α) : Confined s n (pure a : Session σ α) :=
  fun _ _ h => ⟨rfl, [], [], .refl h⟩

theorem Confined.throw (e : BuildError) : Confined s n (throw e : Session σ α) :=
  fun _ _ h => ⟨rfl, [], [], .refl h⟩

theorem Confined.bind {x : Session σ α} {f : α → Session σ β} (hx : Confined s n x) (hf : ∀ a, Confined s n (f a)) :
    Confined s n (x >>= f) := by
  intro w v h
  obtain ⟨hresult, log, cs, hpar⟩ := hx w v h
  rcases hw : x.exec w with ⟨e | a, w'⟩ <;> rcases hv : x.exec v with ⟨e' | a', v'⟩
  all_goals
    rw [hw, hv] at hresult hpar
    cases hresult
  · rw [exec_bind_error hw, exec_bind_error hv]
    exact ⟨rfl, log, cs, hpar⟩
  · rw [exec_bind_ok hw, exec_bind_ok hv]
    obtain ⟨hresult', log', ds, hpar'⟩ := hf a w' v' hpar.alike
    exact ⟨hresult', _, _, hpar.trans hpar'⟩

theorem Confined.tryCatch {x : Session σ α} {handle : BuildError → Session σ α} (hx : Confined s n x)
    (hh : ∀ e, Confined s n (handle e)) : Confined s n (tryCatch x handle) := by
  intro w v h
  obtain ⟨hresult, log, cs, hpar⟩ := hx w v h
  rw [exec_tryCatch, exec_tryCatch]
  rcases hw : x.exec w with ⟨e | a, w'⟩ <;> rcases hv : x.exec v with ⟨e' | a', v'⟩
  all_goals
    rw [hw, hv] at hresult hpar
    cases hresult
  · obtain ⟨hresult', log', ds, hpar'⟩ := hh e w' v' hpar.alike
    exact ⟨hresult', _, _, hpar.trans hpar'⟩
  · exact ⟨rfl, log, cs, hpar⟩

/-- a session may go by what it reads off the files, if that is the same wherever the tree of the entry is -/
theorem Confined.of_read {γ : Type} {x : Session σ α} (g : FileStore → γ) (k : γ → Session σ α)
    (hx : ∀ w : World σ, x.exec w = (k (g w.files)).exec w)
    (hg : ∀ {fs gs : FileStore}, s.Alike n fs gs → g gs = g fs)
    (hk : ∀ fs, s.Holds n fs → Confined s n (k (g fs))) : Confined s n x := by
  intro w v h
  rw [hx w, hx v, hg h]
  exact hk w.files h.left w v h

theorem Confined.forM {γ : Type} {l : List γ} {f : γ → Session σ Unit} (hf : ∀ d ∈ l, Confined s n (f d)) :
    Confined s n (l.forM f) := by
  induction l with
  | nil => exact .pure ()
  | cons d l ih =>
    change Confined s n (f d >>= fun _ => l.forM f)
    exact (hf d List.mem_cons_self).bind fun _ => ih fun d' hd' => hf d' (List.mem_cons_of_mem d hd')

/-- a file of the entry is written -/
theorem Confined.edit (hn : Path.IsOrdinary n) (hm : Path.IsOrdinary m) (p : Path) (f : List UInt8 → List UInt8) :
    Confined s n (change p (·.edit ((s.pathOf n).join ⟨m⟩) f) : Session σ Unit) := by
  intro w v h
  rw [exec_change, exec_change]
  rcases h.edit hn hm f with ⟨e, hw, hv⟩ | ⟨z, fs', gs', hw, hv, halike, hroot, hroot'⟩
  · rw [hw, hv]
    exact ⟨rfl, [], [], .refl h⟩
  · rw [hw, hv]
    exact ⟨rfl, [], [some z], halike, by simp, by simp, hroot, hroot'⟩

/-! ## Commands that keep to one entry -/

/-- what a command answers, and what it does to the tree of an entry, goes by that tree alone; it does nothing to any
other file and brings no link -/
def ActsOn (runner : Runner σ) (s : Site) (n : Name) (c : Command) : Prop :=
  ∃ act : Option Node → Except BuildError Unit × List (Option Node), ∀ w : World σ, s.Holds n w.files →
    w.answer runner c = (act (w.files.root.get? (s.entry n))).1 ∧
    (w.after runner c).files.root = w.files.root.amend (s.entry n) (act (w.files.root.get? (s.entry n))).2 ∧
    s.Holds n (w.after runner c).files

theorem ActsOn.issue {c : Command} (h : ActsOn runner s n c) : Confined s n (issue runner c) := by
  obtain ⟨act, hact⟩ := h
  intro w v halike
  obtain ⟨hanswer, hroot, hholds⟩ := hact w halike.left
  obtain ⟨hanswer', hroot', hholds'⟩ := hact v halike.right
  rw [halike.same] at hanswer' hroot'
  rw [exec_issue, exec_issue]
  refine ⟨hanswer'.trans hanswer.symm, [⟨c, w.answer runner c⟩], _, ?_, rfl, ?_, hroot, hroot'⟩
  · exact halike.amend _ hholds hholds' hroot hroot'
  · rw [World.issued_after, hanswer', hanswer]

theorem tryRuntimes_confined {c : Command} {rts : List JavaRuntime}
    (h : ∀ rt ∈ rts, ActsOn runner s n (c.withEnv "JAVA_HOME" rt.home)) (last : BuildError) :
    Confined s n (tryRuntimes runner c last rts) := by
  induction rts generalizing last with
  | nil => exact .throw last
  | cons rt rest ih =>
    rw [tryRuntimes]
    refine .tryCatch ((h rt List.mem_cons_self).issue.bind fun _ => .pure rt) fun e => ?_
    split_ifs
    · exact ih (fun rt' hrt' => h rt' (List.mem_cons_of_mem rt hrt')) e
    · exact .throw e

/-! ## Processing keeps to the repository -/

def libsOf (s : Site) (n : Name) : Path := libraryDir ⟨.empty, s.cwd⟩ (s.pathOf n)

/-- the path of something inside a directory, with nothing but ordinary names from there on -/
def IsInside (dir d : Path) : Prop := ∃ loc, (∀ m ∈ loc, Path.IsOrdinary m) ∧ d = Descriptor.pathFrom dir loc

/-- a command that is issued for a repository: it is cloned, checked out, or built next to something inside it -/
inductive Concerns (shop : Workshop) (s : Site) (e : ManifestEntry) : Command → Prop
  | clone {text : String} : (shop.dirOf e).text? = some text → Concerns shop s e (cloneCommand e.url text)
  | checkout : Concerns shop s e (checkoutCommand e.revision (shop.dirOf e))
  | step {line : String} {d : Path} {rt : JavaRuntime} : line ∈ stepLines (libsOf s e.dirName) →
      IsInside (shop.dirOf e) d → rt ∈ shop.runtimes → Concerns shop s e (attempt line d rt)

/-- a build system whose descriptors are inside a directory -/
def FoundIn (dir : Path) : BuildSystem → Prop
  | .maven poms => ∀ d ∈ poms, IsInside dir d
  | .gradle wrappers => ∀ d ∈ wrappers, IsInside dir d
  | .unknown => True

theorem Holds.walk_proper {fs : FileStore} (h : s.Holds n fs) (hn : Path.IsOrdinary n) {met : List (Location × Kind)}
    (hmet : Descriptor.walk fs (s.pathOf n) = .ok met) : ∀ p ∈ met, ∀ m ∈ p.1, Path.IsOrdinary m := by
  replace hmet := (Descriptor.walk_eq_ok.1 hmet).1
  rw [Descriptor.scene] at hmet
  cases hx : fs.node .itself (s.pathOf n) with
  | error f =>
    rw [hx] at hmet
    cases hmet
  | ok x =>
    rw [hx] at hmet
    have hproper := h.proper x (h.get?_of_node hn hx)
    cases x with
    | link target => exact absurd rfl (hproper.view [] target)
    | file content executable =>
      obtain rfl := Except.ok.inj hmet
      exact fun p hp => (hproper p hp).2
    | dir entries =>
      obtain rfl := Except.ok.inj hmet
      exact fun p hp => (hproper p hp).2

/-- the descriptors of a repository are inside it -/
theorem foundIn_detect {fs : FileStore} (h : s.Holds n fs) (hn : Path.IsOrdinary n) {system : BuildSystem}
    (hsystem : BuildSystem.detect fs (s.pathOf n) = .ok system) : FoundIn (s.pathOf n) system := by
  rw [detect_eq_map] at hsystem
  cases hw : Descriptor.walk fs (s.pathOf n) with
  | error e =>
    rw [hw] at hsystem
    cases hsystem
  | ok met =>
    rw [hw] at hsystem
    obtain rfl := Except.ok.inj hsystem
    have hinside : ∀ name, ∀ d ∈ nearest (Descriptor.called (s.pathOf n) name met), IsInside (s.pathOf n) d := by
      intro name d hd
      obtain ⟨p, hp, rfl⟩ := List.mem_map.1 (mem_nearest.1 hd).1
      exact ⟨p.1, Holds.walk_proper h hn hw p (List.mem_filter.1 hp).1, rfl⟩
    rw [systemMet]
    split_ifs
    · exact hinside _
    · exact hinside _
    · trivial

def ownFiles : List String := [".gitignore", builtMarker, libsMarker]

theorem ordinary_ownFiles : ∀ name ∈ ownFiles, Path.IsOrdinary (Utf8.encode name) := by decide +kernel

theorem walk_congr {fs gs : FileStore} (h : s.Alike n fs gs) (hn : Path.IsOrdinary n) :
    Descriptor.walk gs (s.pathOf n) = Descriptor.walk fs (s.pathOf n) := by
  rw [Descriptor.walk, Descriptor.walk, Descriptor.scene, Descriptor.scene, h.node_pathOf hn, h.node_pathOf hn]

theorem unknownSystem_congr {fs gs : FileStore} (h : s.Alike n fs gs) (hn : Path.IsOrdinary n) :
    unknownSystem gs (s.pathOf n) = unknownSystem fs (s.pathOf n) := by
  rw [unknownSystem, unknownSystem, FileStore.entries, FileStore.entries, h.node_pathOf hn]

section Stages

variable (hn : Path.IsOrdinary n)

include hn

theorem unknown_confined : Confined s n (do throw (unknownSystem (← get).files (s.pathOf n)) : Session σ Unit) :=
  .of_read (unknownSystem · (s.pathOf n)) MonadExcept.throw (fun w => exec_bind_ok (exec_get w))
    (fun h => unknownSystem_congr h hn) fun _ _ => .throw _

theorem edit_confined {name : String} (hname : name ∈ ownFiles) (f : List UInt8 → List UInt8) :
    Confined s n (change (inside (s.pathOf n) name) (·.edit (inside (s.pathOf n) name) f) : Session σ Unit) :=
  .edit hn (ordinary_ownFiles name hname) _ f

theorem unlessMarked_confined {name : String} (hname : name ∈ ownFiles) {stage : Session σ Unit}
    (hstage : Confined s n stage) : Confined s n (unlessMarked (inside (s.pathOf n) name) stage) := by
  refine .of_read (·.pathExists (inside (s.pathOf n) name)) (fun there => do
      if !there then
        stage
        change (inside (s.pathOf n) name) (·.touch (inside (s.pathOf n) name))) (fun w => exec_bind_ok (exec_ask _ w))
    (fun h => h.pathExists_join hn (ordinary_ownFiles name hname)) fun fs _ => ?_
  split_ifs
  · exact hstage.bind fun _ => edit_confined hn hname _
  · exact .pure ()

variable (hsteps : ∀ line ∈ stepLines (libsOf s n), ∀ d, IsInside (s.pathOf n) d → ∀ rt ∈ shop.runtimes,
  ActsOn runner s n (attempt line d rt))

include hsteps

omit hn in
theorem buildStep_confined {line : String} (hline : line ∈ stepLines (libsOf s n)) {d : Path}
    (hd : IsInside (s.pathOf n) d) : Confined s n (buildStep shop runner line d) :=
  (tryRuntimes_confined (hsteps line hline d hd) .noRuntimes).bind fun _ => .pure ()

theorem compile_confined {system : BuildSystem} (hsystem : FoundIn (s.pathOf n) system) :
    Confined s n (compile shop runner system (s.pathOf n)) := by
  cases system with
  | maven poms => exact .forM fun d hd => buildStep_confined hsteps (by simp [stepLines]) (hsystem d hd)
  | gradle wrappers =>
    refine .bind (.forM fun d hd => buildStep_confined hsteps (by simp [stepLines]) (hsystem d hd)) fun _ => ?_
    exact edit_confined hn (by simp [ownFiles]) _
  | unknown => exact unknown_confined hn

theorem copyLibraries_confined {system : BuildSystem} (hsystem : FoundIn (s.pathOf n) system) :
    Confined s n (copyLibraries shop runner system (s.pathOf n)) := by
  cases system with
  | maven poms =>
    refine .of_read (libraryDir · (s.pathOf n)) (fun libs => poms.forM fun pom => do
        buildStep shop runner mavenInstall pom
        buildStep shop runner (mavenCopy libs) pom) (fun w => exec_bind_ok (exec_get w))
      (fun h => libraryDir_congr (h.right.cwd.trans h.left.cwd.symm) _) fun fs hfs => ?_
    have hlibs : libraryDir fs (s.pathOf n) = libsOf s n := libraryDir_congr (by exact hfs.cwd) _
    rw [hlibs]
    refine .forM fun d hd => ?_
    exact (buildStep_confined hsteps (by simp [stepLines]) (hsystem d hd)).bind fun _ =>
      buildStep_confined hsteps (by simp [stepLines]) (hsystem d hd)
  | gradle wrappers => exact .throw _
  | unknown => exact unknown_confined hn

theorem stages_confined {system : BuildSystem} (hsystem : FoundIn (s.pathOf n) system) :
    Confined s n (stages shop runner (s.pathOf n) system) :=
  (unlessMarked_confined hn (by simp [ownFiles]) (compile_confined hn hsteps hsystem)).bind fun _ =>
    (unlessMarked_confined hn (by simp [ownFiles]) (copyLibraries_confined hn hsteps hsystem)).bind fun _ =>
      .pure Outcome.built

theorem finish_confined : Confined s n (finish shop runner (s.pathOf n)) := by
  have hmarker : ∀ {fs gs : FileStore}, s.Alike n fs gs → ∀ name ∈ ownFiles,
      gs.pathExists (inside (s.pathOf n) name) = fs.pathExists (inside (s.pathOf n) name) :=
    fun h name hname => h.pathExists_join hn (ordinary_ownFiles name hname)
  refine .of_read (fun fs => (fs.pathExists (inside (s.pathOf n) builtMarker) &&
      fs.pathExists (inside (s.pathOf n) libsMarker), BuildSystem.detect fs (s.pathOf n)))
    (fun r => if r.1 then pure .alreadyBuilt
      else MonadExcept.ofExcept r.2 >>= stages shop runner (s.pathOf n)) (fun w => ?_) (fun h => ?_) fun fs hfs => ?_
  · rw [exec_finish]
    dsimp only
    split_ifs
    · rfl
    · rw [exec_bind, exec_ofExcept]
      cases BuildSystem.detect w.files (s.pathOf n) <;> rfl
  · rw [hmarker h _ (by simp [ownFiles]), hmarker h _ (by simp [ownFiles]), detect_eq_map, detect_eq_map,
      walk_congr h hn]
  · dsimp only
    split_ifs
    · exact .pure _
    · cases hsystem : BuildSystem.detect fs (s.pathOf n) with
      | error e => exact .throw e
      | ok system => exact stages_confined hn hsteps (foundIn_detect hfs hn hsystem)

end Stages

def settle (shop : Workshop) (runner : Runner σ) (e : ManifestEntry) : Session σ Outcome := do
  Session.issue runner (checkoutCommand e.revision (shop.dirOf e))
  Session.change (inside (shop.dirOf e) ".gitignore") (·.append (inside (shop.dirOf e) ".gitignore") ignoreLines)
  finish shop runner (shop.dirOf e)

section Process

variable {e : ManifestEntry} {text : String}

/-- a repository that is not there is cloned first, and one that is there is built -/
theorem exec_process (ht : (shop.dirOf e).text? = some text) (w : World σ) :
    (process shop runner e).exec w =
      if w.files.pathExists (shop.dirOf e) then (finish shop runner (shop.dirOf e)).exec w
      else (issue runner (cloneCommand e.url text) >>= fun _ => settle shop runner e).exec w := by
  rw [process, arrive, settle, ht]
  generalize shop.dirOf e = dir
  dsimp only
  rw [bind_assoc, exec_bind_ok (exec_ask _ w)]
  cases w.files.pathExists dir with
  | true => rfl
  | false => simp only [fetch, Bool.not_false, if_true, Bool.false_eq_true, if_false, bind_assoc, pure_bind]

section

variable (hdir : shop.dirOf e = s.pathOf e.dirName) (hn : Path.IsOrdinary e.dirName)
  (hacts : ∀ c, Concerns shop s e c → ActsOn runner s e.dirName c)

include hdir hn hacts

theorem finish_confined_of_concerns : Confined s e.dirName (finish shop runner (shop.dirOf e)) := by
  rw [hdir]
  refine finish_confined hn fun line hline d hd rt hrt => ?_
  rw [← hdir] at hd
  exact hacts _ (.step hline hd hrt)

theorem settle_confined : Confined s e.dirName (settle shop runner e) := by
  refine (hacts _ .checkout).issue.bind fun _ => .bind ?_ fun _ => finish_confined_of_concerns hdir hn hacts
  rw [hdir]
  exact edit_confined hn (by simp [ownFiles]) _

theorem process_confined : Confined s e.dirName (process shop runner e) := by
  cases ht : (shop.dirOf e).text? with
  | none =>
    rw [process_of_notText ht]
    exact .throw _
  | some text =>
    refine .of_read (·.pathExists (shop.dirOf e)) (fun there => if there then finish shop runner (shop.dirOf e)
      else issue runner (cloneCommand e.url text) >>= fun _ => settle shop runner e) (fun w => ?_) (fun h => ?_)
      fun fs _ => ?_
    · rw [exec_process ht]
      split_ifs <;> rfl
    · rw [hdir]
      exact h.pathExists_pathOf hn
    · split_ifs
      · exact finish_confined_of_concerns hdir hn hacts
      · exact (hacts _ (.clone ht)).issue.bind fun _ => settle_confined hdir hn hacts

end

end Process

end Benchwork.Build.Repository
