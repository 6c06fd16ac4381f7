/-
Completed runs can be repeated.

A run that succeeds leaves every one of its repositories with both markers, whatever had to be done for it. Where no
command takes a path away, the markers of one repository outlast the work on the next ones, so when the run is over all
of them are there: a second run, with any runner, passes over every repository, issues no command and changes nothing.
This needs every repository to have a directory of its own to be in. The empty path leads nowhere, though a marker is
still found in the current directory: with no directory for repositories and a repository without a name, each run
fetches once more.
-/
import Benchwork.Build.Scripted
import Benchwork.Proofs.Build.Stages

namespace Benchwork

/-! ## Files that stay -/

/-- every path that leads somewhere still does, and to a directory if it did -/
structure FileStore.Keeps (fs fs' : FileStore) : Prop where
  pathExists : ∀ p, fs.pathExists p = true → fs'.pathExists p = true
  isDir : ∀ p, fs.isDir p = true → fs'.isDir p = true

theorem FileStore.Keeps.refl (fs : FileStore) : fs.Keeps fs := ⟨fun _ h => h, fun _ h => h⟩

theorem FileStore.Keeps.trans {fs fs' fs'' : FileStore} (h : fs.Keeps fs') (h' : fs'.Keeps fs'') : fs.Keeps fs'' :=
  ⟨fun p hp => h'.pathExists p (h.pathExists p hp), fun p hp => h'.isDir p (h.isDir p hp)⟩

theorem FileStore.Extends.keeps {fs fs' : FileStore} (h : fs.Extends fs') : fs.Keeps fs' :=
  ⟨fun _ => h.pathExists, fun _ => h.isDir⟩

namespace Build

variable {σ τ : Type} {runner : Runner σ}

/-- no command takes a path away -/
def Runner.Keeps (runner : Runner σ) : Prop :=
  ∀ (c : Command) (memory : σ) (fs : FileStore), fs.Keeps { fs with root := (runner.run c memory fs).2.2 }

theorem Runner.Keeps.spans (hr : runner.Keeps) : Session.Spans runner FileStore.Keeps where
  refl := .refl
  trans := .trans
  command := fun w c => hr c w.memory w.files
  edit := fun h => (FileStore.edit_extends h).keeps

namespace Repository

open Benchwork.Text Session

variable {shop : Workshop} {entry : ManifestEntry}

/-! ## Settled repositories -/

structure Settled (shop : Workshop) (entry : ManifestEntry) (fs : FileStore) : Prop where
  text : (shop.dirOf entry).text?.isSome = true
  there : fs.pathExists (shop.dirOf entry) = true
  built : fs.pathExists (inside (shop.dirOf entry) builtMarker) = true
  libs : fs.pathExists (inside (shop.dirOf entry) libsMarker) = true

theorem Settled.mono {fs fs' : FileStore} (h : Settled shop entry fs) (hk : fs.Keeps fs') : Settled shop entry fs' :=
  ⟨h.text, hk.pathExists _ h.there, hk.pathExists _ h.built, hk.pathExists _ h.libs⟩

/-- a settled repository is passed over -/
theorem Settled.exec_process {w : World σ} (h : Settled shop entry w.files) (runner : Runner σ) :
    (process shop runner entry).exec w = (.ok .alreadyBuilt, w) := by
  obtain ⟨text, ht⟩ := Option.isSome_iff_exists.1 h.text
  have ha : (arrive shop runner entry).exec w = (.ok (shop.dirOf entry), w) := by
    rw [arrive, ht]
    dsimp only
    rw [exec_bind_ok (exec_ask _ w), h.there]
    rfl
  rw [process, exec_bind_ok ha, exec_finish, h.built, h.libs]
  rfl

theorem settled_of_markers {fs : FileStore} (hdir : (shop.dirOf entry).bytes ≠ [])
    (htext : (shop.dirOf entry).text?.isSome = true)
    (hbuilt : fs.pathExists (inside (shop.dirOf entry) builtMarker) = true)
    (hlibs : fs.pathExists (inside (shop.dirOf entry) libsMarker) = true) : Settled shop entry fs := by
  have hd := isDir_of_inside hdir (by decide +kernel) hbuilt
  exact ⟨htext, FileStore.pathExists_of_isDir hd, hbuilt, hlibs⟩

/-- a processed repository has both markers -/
theorem process_settled (hr : runner.Keeps) (hdir : (shop.dirOf entry).bytes ≠ []) {w w' : World σ} {o : Outcome}
    (h : (process shop runner entry).exec w = (.ok o, w')) : Settled shop entry w'.files := by
  cases processes_process h with
  | passed ha hbuilt hlibs => exact settled_of_markers hdir ha.arrives.text hbuilt hlibs
  | staged ha _ _ _ hresult =>
    obtain ⟨hlibs, w₂, hbuilt, hmoves⟩ := hresult o rfl
    exact settled_of_markers hdir ha.arrives.text ((hr.spans.moves hmoves).pathExists _ hbuilt) hlibs

/-! ## Runs -/

theorem processAll_settled (hr : runner.Keeps) {entries : List ManifestEntry}
    (hdir : ∀ e ∈ entries, (shop.dirOf e).bytes ≠ []) {w w' : World σ}
    (h : (processAll shop runner entries).exec w = (.ok (), w')) :
    w.files.Keeps w'.files ∧ ∀ e ∈ entries, Settled shop e w'.files := by
  induction entries generalizing w with
  | nil =>
    obtain rfl := (Prod.mk.inj h).2
    exact ⟨.refl _, by simp⟩
  | cons e entries ih =>
    obtain ⟨o, w₁, he, h⟩ := exec_processAll_cons h
    obtain ⟨hkeep, hrest⟩ := ih (fun e' he' => hdir e' (List.mem_cons_of_mem e he')) h
    refine ⟨((processes_process he).spans hr.spans).trans hkeep, fun e' he' => ?_⟩
    rcases List.mem_cons.1 he' with rfl | he'
    · exact (process_settled hr (hdir _ List.mem_cons_self) he).mono hkeep
    · exact hrest e' he'

theorem exec_processAll_settled {w : World σ} {entries : List ManifestEntry} (runner : Runner σ)
    (h : ∀ e ∈ entries, Settled shop e w.files) : (processAll shop runner entries).exec w = (.ok (), w) := by
  induction entries with
  | nil => rfl
  | cons e entries ih =>
    rw [processAll, exec_bind_ok ((h e List.mem_cons_self).exec_process runner)]
    exact ih fun e' he' => h e' (List.mem_cons_of_mem e he')

theorem run_settled (hr : runner.Keeps) {entries : List ManifestEntry}
    (hdir : ∀ e ∈ entries, (shop.dirOf e).bytes ≠ []) {w w' : World σ}
    (h : (run shop runner entries).exec w = (.ok (), w')) :
    w'.files.makeDirs shop.reposDir = (.ok (), w'.files) ∧ ∀ e ∈ entries, Settled shop e w'.files := by
  obtain ⟨files, hmake, h⟩ := exec_run_ok h
  obtain ⟨hkeep, hsettled⟩ := processAll_settled hr hdir h
  refine ⟨?_, hsettled⟩
  by_cases hempty : shop.reposDir.bytes = []
  · rw [FileStore.makeDirs, if_pos hempty]
  · exact FileStore.makeDirs_of_isDir (hkeep.isDir _ (FileStore.makeDirs_isDir hempty hmake))

/-- **Completed runs can be repeated.** Where no command takes a path away and every repository has a directory of its
own, a run that succeeded leaves the files such that a second run with any runner succeeds, passes over every
repository, and leaves the world as it was: the files, the runner's memory and the record of commands. -/
theorem run_again (shop : Workshop) (runner : Runner σ) (hr : runner.Keeps) (entries : List ManifestEntry)
    (hdir : ∀ e ∈ entries, (shop.dirOf e).bytes ≠ []) (w w' : World σ)
    (h : (run shop runner entries).exec w = (.ok (), w')) (runner' : Runner τ) (v : World τ)
    (hv : v.files = w'.files) :
    (run shop runner' entries).exec v = (.ok (), v) ∧
      ∀ e ∈ entries, (process shop runner' e).exec v = (.ok .alreadyBuilt, v) := by
  obtain ⟨hdirs, hsettled⟩ := run_settled hr hdir h
  rw [← hv] at hdirs hsettled
  have hmake : (Session.makeDirs shop.reposDir).exec v = (.ok (), v) := by rw [exec_makeDirs, hdirs]
  refine ⟨?_, fun e he => (hsettled e he).exec_process runner'⟩
  rw [run, exec_bind_ok hmake]
  exact exec_processAll_settled runner' hsettled

end Repository

/-! ## Runs with prepared answers -/

theorem Scripted.clone_extends (trees : List (String × List FileStore.Item)) (c : Command) (fs : FileStore) :
    fs.Extends (Scripted.clone trees c fs) := by
  rw [Scripted.clone]
  split
  · split
    · dsimp only
      split
      · rename_i h
        obtain ⟨fs₁, h₁, h₂⟩ := FileStore.bind_eq_ok h
        exact (FileStore.makeDirs_extends h₁).trans (FileStore.layOut_extends h₂)
      · exact .refl fs
    · exact .refl fs
  · exact .refl fs

theorem Scripted.runner_keeps (responses : List Scripted.Response) (trees : List (String × List FileStore.Item)) :
    (Scripted.runner responses trees).Keeps := by
  intro c calls fs
  have hext := Scripted.clone_extends trees c fs
  have hroot : ({ fs with root := (Scripted.clone trees c fs).root } : FileStore) = Scripted.clone trees c fs := by
    rw [← hext.cwd]
  rw [Scripted.runner]
  dsimp only
  split
  · rw [hroot]
    exact hext.keeps
  · exact .refl fs

namespace Repository

def refusing : Runner Unit where
  run _ _ fs := (.error .noRuntimes, (), fs.root)

/-- a run that fetches and builds one repository of each kind, and is repeated with a runner that refuses everything -/
theorem run_again_refusing :
    let shop : Workshop := ⟨Path.ofString "repos", [⟨"jdk", "/jdk"⟩]⟩
    let entries : List ManifestEntry := [⟨"https://example.com/foo.git", "v1"⟩, ⟨"https://example.com/bar", "v2"⟩]
    let runner := Scripted.runner []
      [("https://example.com/foo.git", [.file (Path.ofString "pom.xml") [] false]),
       ("https://example.com/bar", [.file (Path.ofString "gradlew") [] true])]
    let first := (run shop runner entries).exec ⟨⟨.empty, []⟩, 0, []⟩
    let v : World Unit := ⟨first.2.files, (), []⟩
    first.1 = .ok () ∧ first.2.issued.length = 8 ∧ (run shop refusing entries).exec v = (.ok (), v) := by
  intro shop entries runner first v
  have hfirst : first.1 = .ok () ∧ first.2.issued.length = 8 := by decide +kernel
  have hdir : ∀ e ∈ entries, (shop.dirOf e).bytes ≠ [] := by decide +kernel
  exact ⟨hfirst.1, hfirst.2, (run_again shop runner (Scripted.runner_keeps _ _) entries hdir _ first.2
    (Prod.ext hfirst.1 rfl) refusing v rfl).1⟩

/-- **A repository without a directory of its own is fetched by each run**: with no directory for repositories and no
name to call it by, its path is empty and leads nowhere, while its markers are found in the current directory. -/
theorem run_again_nameless :
    let shop : Workshop := ⟨⟨[]⟩, []⟩
    let entries : List ManifestEntry := [⟨"https://example.com/.git", "v1"⟩]
    let runner := Scripted.runner [] []
    let marker : Node := .file [] false
    let files : FileStore := ⟨.dir [(Text.Utf8.encode builtMarker, marker), (Text.Utf8.encode libsMarker, marker)], []⟩
    let first := (run shop runner entries).exec ⟨files, 0, []⟩
    let second := (run shop runner entries).exec first.2
    runner.Keeps ∧ first.1 = .ok () ∧ second.1 = .ok () ∧ second.2.issued.length = first.2.issued.length + 2 ∧
      second.2.files.read (Path.ofString ".gitignore") ≠ first.2.files.read (Path.ofString ".gitignore") := by
  refine ⟨Scripted.runner_keeps [] [], ?_⟩
  decide +kernel

end Repository

end Build

end Benchwork
