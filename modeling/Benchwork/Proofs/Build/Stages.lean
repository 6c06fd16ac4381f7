/-
What the stages of a repository do.

A repository is told by the name of its directory, in which there is no slash. A build step is attempted under one
runtime after another; `Everywhere` says that a line succeeded next to every descriptor. A repository is `Compiled` when
its compile line did, and `Stocked` when the lines that put its libraries in place did. `Arrives` says all that getting at
a repository can do, and `Processes` all that processing it can do: pass it over, fail to detect how it is built, or go
through the stages, where a marker is made only when the record shows that its stage succeeded (`Marks`).
-/
import Benchwork.Build.Repository
import Benchwork.Proofs.Build.Session
import Benchwork.Proofs.Text.Utf8

namespace Benchwork.Build

open Benchwork.Text

/-! ## Names -/

def ManifestEntry.dirName (e : ManifestEntry) : Name := Utf8.encode e.repoName

theorem Workshop.dirOf_eq (shop : Workshop) (e : ManifestEntry) : shop.dirOf e = shop.reposDir.join ⟨e.dirName⟩ := rfl

theorem ManifestEntry.slash_not_mem_repoNameOf (url : List Char) : '/' ∉ (repoNameOf url).toList := by
  have hlast : '/' ∉ ((dropEndWhile (· = '/') url).reverse.takeWhile (· ≠ '/')).reverse := by
    intro h
    simpa using List.mem_takeWhile_imp (List.mem_reverse.1 h)
  rw [repoNameOf, dropEnd?]
  split_ifs
  · simp only [Option.getD_some, String.toList_ofList]
    exact fun h => hlast (List.mem_of_mem_take h)
  · simpa using hlast

theorem ManifestEntry.slash_not_mem_dirName (e : ManifestEntry) : Path.slash ∉ e.dirName := by
  intro h
  obtain ⟨c, hc, hv⟩ := Utf8.exists_mem_of_mem_encode (by decide) h
  have hslash : c = '/' := by
    rw [← Char.ofNat_toNat c, hv]
    rfl
  subst hslash
  exact slash_not_mem_repoNameOf _ hc

namespace Repository

open Session

variable {σ : Type} {shop : Workshop} {runner : Runner σ}

/-! ## Build steps -/

/-- a line next to a descriptor, under one runtime -/
def attempt (line : String) (descriptor : Path) (rt : JavaRuntime) : Command :=
  (stepCommand line descriptor).withEnv "JAVA_HOME" rt.home

/-- the line succeeded next to the descriptor under some runtime -/
def Ran (shop : Workshop) (line : String) (descriptor : Path) (log : List Issued) : Prop :=
  ∃ rt ∈ shop.runtimes, ⟨attempt line descriptor rt, .ok ()⟩ ∈ log

/-- the line succeeded next to every descriptor -/
def Everywhere (shop : Workshop) (line : String) (descriptors : List Path) (log : List Issued) : Prop :=
  ∀ d ∈ descriptors, Ran shop line d log

theorem Ran.mono {log log' : List Issued} {line : String} {d : Path} (h : Ran shop line d log) (hsub : log ⊆ log') :
    Ran shop line d log' := by
  obtain ⟨rt, hrt, hok⟩ := h
  exact ⟨rt, hrt, hsub hok⟩

/-- the lines of build steps, for libraries that go to `libs` -/
def stepLines (libs : Path) : List String := [mavenCompile, gradleClasses, mavenInstall, mavenCopy libs]

def IsStep (shop : Workshop) (libs : Path) (c : Command) : Prop :=
  ∃ line ∈ stepLines libs, ∃ d, ∃ rt ∈ shop.runtimes, c = attempt line d rt

/-- copying libraries runs Maven with one argument, and with what there is of words in the place to copy to -/
theorem ofLine_mavenCopy (libs : Path) : Command.ofLine (mavenCopy libs) =
    { program := "mvn"
      args := "dependency:copy-dependencies" :: words ("-DoutputDirectory=" ++ libs.display) } := by
  have hline : (mavenCopy libs).toList =
      "mvn".toList ++ ' ' :: ("dependency:copy-dependencies".toList ++ ' ' ::
        ("-DoutputDirectory=".toList ++ libs.display.toList)) := by
    have hassoc : ∀ m l k r : List Char, (m ++ ' ' :: (l ++ ' ' :: k)) ++ r = m ++ ' ' :: (l ++ ' ' :: (k ++ r)) := by
      simp
    have hwords : "mvn dependency:copy-dependencies -DoutputDirectory=".toList =
        "mvn".toList ++ ' ' :: ("dependency:copy-dependencies".toList ++ ' ' :: "-DoutputDirectory=".toList) := by
      decide +kernel
    exact (String.toList_append.trans (congrArg (· ++ libs.display.toList) hwords)).trans (hassoc _ _ _ _)
  have hblank : isBlank ' ' = true := by decide
  have hplace : words ("-DoutputDirectory=" ++ libs.display) =
      (wordsOf ("-DoutputDirectory=".toList ++ libs.display.toList)).map String.ofList :=
    congrArg (fun cs => (wordsOf cs).map String.ofList) String.toList_append
  rw [hplace, Command.ofLine, words, hline, wordsOf_append_blank (by decide) (by simp [isBlank]) hblank,
    wordsOf_cons_blank hblank, wordsOf_append_blank (by decide +kernel) (by simp [isBlank]) hblank,
    wordsOf_cons_blank hblank]
  simp only [List.map_cons, String.ofList_toList]

/-- build steps do not run git -/
theorem program_attempt_ne_git {libs : Path} {line : String} (hline : line ∈ stepLines libs) (d : Path)
    (rt : JavaRuntime) : (attempt line d rt).program ≠ "git" := by
  change (Command.ofLine line).program ≠ "git"
  simp only [stepLines, List.mem_cons, List.not_mem_nil, or_false] at hline
  rcases hline with rfl | rfl | rfl | rfl
  · decide +kernel
  · decide +kernel
  · decide +kernel
  · rw [ofLine_mavenCopy]
    change "mvn" ≠ "git"
    decide

theorem IsStep.program_ne_git {libs : Path} {c : Command} (h : IsStep shop libs c) : c.program ≠ "git" := by
  obtain ⟨line, hline, d, rt, -, rfl⟩ := h
  exact program_attempt_ne_git hline d rt

/-! ## Inside a repository -/

/-- what has something inside is a directory -/
theorem isDir_of_inside {fs : FileStore} {dir : Path} {name : String} (hdir : dir.bytes ≠ [])
    (hname : Path.IsOrdinary (Utf8.encode name)) (h : fs.pathExists (inside dir name) = true) :
    fs.isDir dir = true := by
  obtain ⟨L, hL⟩ := FileStore.pathExists_iff.1 h
  obtain ⟨L', -, hL', hd, -⟩ := FileStore.Leads.parent hname hdir hL
  exact FileStore.isDir_iff.2 ⟨L', hL', hd⟩

/-! ## Stages -/

/-- the compile line of the build system succeeded next to every descriptor -/
def Compiled (shop : Workshop) (log : List Issued) : BuildSystem → Prop
  | .maven poms => Everywhere shop mavenCompile poms log
  | .gradle wrappers => Everywhere shop gradleClasses wrappers log
  | .unknown => False

/-- what puts the libraries in place succeeded next to every descriptor -/
def Stocked (shop : Workshop) (libs : Path) (log : List Issued) : BuildSystem → Prop
  | .maven poms => Everywhere shop mavenInstall poms log ∧ Everywhere shop (mavenCopy libs) poms log
  | .gradle wrappers => Everywhere shop gradleClasses wrappers log
  | .unknown => False

theorem Compiled.mono {log log' : List Issued} {system : BuildSystem} (h : Compiled shop log system)
    (hsub : log ⊆ log') : Compiled shop log' system := by
  cases system with
  | maven poms => exact fun d hd => (h d hd).mono hsub
  | gradle wrappers => exact fun d hd => (h d hd).mono hsub
  | unknown => exact h

theorem Stocked.mono {libs : Path} {log log' : List Issued} {system : BuildSystem} (h : Stocked shop libs log system)
    (hsub : log ⊆ log') : Stocked shop libs log' system := by
  cases system with
  | maven poms => exact ⟨fun d hd => (h.1 d hd).mono hsub, fun d hd => (h.2 d hd).mono hsub⟩
  | gradle wrappers => exact fun d hd => (h d hd).mono hsub
  | unknown => exact h

/-- a marker, and the stage it stands for succeeded since there were `n` commands on record -/
def Marks (shop : Workshop) (dir libs : Path) (system : BuildSystem) (n : Nat) (w : World σ) (p : Path) : Prop :=
  p = inside dir builtMarker ∧ Compiled shop (w.since n) system ∨
    p = inside dir libsMarker ∧ Stocked shop libs (w.since n) system

section Stages

variable {C : Command → Prop} {F : World σ → Path → Prop} {w : World σ} {n : Nat}

theorem buildStep_runs {line : String} {d : Path} (hn : n ≤ w.issued.length)
    (hC : ∀ rt ∈ shop.runtimes, C (attempt line d rt)) :
    Runs runner C F (buildStep shop runner line d) w fun _ w' => Ran shop line d (w'.since n) := by
  refine (tryRuntimes_runs hn hC).bind fun rt w' _ h => ?_
  exact ⟨.refl w', fun _ _ => ⟨rt, h⟩⟩

theorem Ran.later {w' : World σ} {line : String} {d : Path} (h : Ran shop line d (w.since n))
    (hm : Moves runner C F w w') : Ran shop line d (w'.since n) :=
  h.mono fun _ hi => hm.mem_since hi

theorem length_issued_le {w' : World σ} (hm : Moves runner C F w w') (hn : n ≤ w.issued.length) :
    n ≤ w'.issued.length := by
  obtain ⟨new, hnew, -⟩ := hm.issued
  rw [hnew, List.length_append]
  exact le_trans hn (Nat.le_add_right _ _)

theorem buildSteps_runs {line : String} {ds : List Path} (hn : n ≤ w.issued.length)
    (hC : ∀ d ∈ ds, ∀ rt ∈ shop.runtimes, C (attempt line d rt)) :
    Runs runner C F (ds.forM (buildStep shop runner line)) w fun _ w' => Everywhere shop line ds (w'.since n) :=
  .forM (fun _ _ _ hm h => h.later hm) fun d hd _ hm => buildStep_runs (length_issued_le hm hn) (hC d hd)

end Stages

variable {w : World σ} {dir libs : Path} {system : BuildSystem} {n : Nat}

theorem isStep_attempt {line : String} (hline : line ∈ stepLines libs) (d : Path) :
    ∀ rt ∈ shop.runtimes, IsStep shop libs (attempt line d rt) :=
  fun rt hrt => ⟨line, hline, d, rt, hrt, rfl⟩

theorem compile_runs (hn : n ≤ w.issued.length) :
    Runs runner (IsStep shop libs) (Marks shop dir libs system n) (compile shop runner system dir) w fun _ w' =>
      Compiled shop (w'.since n) system := by
  cases system with
  | maven poms => exact buildSteps_runs hn fun d _ => isStep_attempt (by simp [stepLines]) d
  | gradle wrappers =>
    refine (buildSteps_runs hn fun d _ => isStep_attempt (by simp [stepLines]) d).bind fun _ w' _ hdone => ?_
    have htouch : Runs runner (IsStep shop libs) (Marks shop dir libs (.gradle wrappers) n) _ w' _ :=
      .touch (.inr ⟨rfl, hdone⟩)
    exact ⟨htouch.moves, fun _ _ d hd => (hdone d hd).later htouch.moves⟩
  | unknown => exact .bind_read (exec_get w) .throw

theorem copyLibraries_runs (hn : n ≤ w.issued.length) (hlibs : libraryDir w.files dir = libs) :
    Runs runner (IsStep shop libs) (Marks shop dir libs system n) (copyLibraries shop runner system dir) w fun _ w' =>
      Stocked shop libs (w'.since n) system := by
  have hinstall : ∀ d, ∀ rt ∈ shop.runtimes, IsStep shop libs (attempt mavenInstall d rt) :=
    isStep_attempt (by simp [stepLines])
  have hcopy : ∀ d, ∀ rt ∈ shop.runtimes, IsStep shop libs (attempt (mavenCopy libs) d rt) :=
    isStep_attempt (by simp [stepLines])
  cases system with
  | maven poms =>
    refine .bind_read (exec_get w) ?_
    rw [hlibs]
    have hall : Runs runner (IsStep shop libs) (Marks shop dir libs (.maven poms) n)
        (poms.forM fun pom => do
          buildStep shop runner mavenInstall pom
          buildStep shop runner (mavenCopy libs) pom) w
        fun _ w' => ∀ d ∈ poms, Ran shop mavenInstall d (w'.since n) ∧ Ran shop (mavenCopy libs) d (w'.since n) := by
      refine .forM (fun _ _ _ hm h => ⟨h.1.later hm, h.2.later hm⟩) fun d _ w' hm => ?_
      have hn' := length_issued_le hm hn
      refine (buildStep_runs hn' (hinstall d)).bind fun _ w'' hm' h => ?_
      have hrun : Runs runner (IsStep shop libs) (Marks shop dir libs (.maven poms) n) _ w'' _ :=
        buildStep_runs (length_issued_le hm' hn') (hcopy d)
      exact ⟨hrun.moves, fun a ha => ⟨h.later hrun.moves, hrun.result a ha⟩⟩
    exact ⟨hall.moves, fun a ha => ⟨fun d hd => (hall.result a ha d hd).1, fun d hd => (hall.result a ha d hd).2⟩⟩
  | gradle wrappers => exact .throw
  | unknown => exact .bind_read (exec_get w) .throw

theorem unlessMarked_runs {C : Command → Prop} {F : World σ → Path → Prop} {marker : Path} {stage : Session σ Unit}
    (h : Runs runner C F stage w fun _ w' => F w' marker) :
    Runs runner C F (unlessMarked marker stage) w fun _ w' => w'.files.pathExists marker = true := by
  refine .bind_read (exec_ask _ w) ?_
  cases hm : w.files.pathExists marker with
  | true => exact ⟨.refl w, fun _ _ => hm⟩
  | false => exact h.bind fun _ w' _ hF => .touch hF

abbrev StageMoves (shop : Workshop) (runner : Runner σ) (dir : Path) (system : BuildSystem) (w : World σ) :
    World σ → World σ → Prop :=
  Moves runner (IsStep shop (libraryDir w.files dir)) (Marks shop dir (libraryDir w.files dir) system w.issued.length)

theorem libraryDir_congr {fs fs' : FileStore} (h : fs'.cwd = fs.cwd) (dir : Path) :
    libraryDir fs' dir = libraryDir fs dir := by
  rw [libraryDir, libraryDir, FileStore.cwdPath, FileStore.cwdPath, h]

/-- going through the stages: when they succeed, the first marker is there before the second stage and the second one
in the end -/
theorem stages_runs (shop : Workshop) (runner : Runner σ) (dir : Path) (system : BuildSystem) (w : World σ) :
    Runs runner (IsStep shop (libraryDir w.files dir))
      (Marks shop dir (libraryDir w.files dir) system w.issued.length) (stages shop runner dir system) w
      fun o w' => o = .built ∧ w'.files.pathExists (inside dir libsMarker) = true ∧
        ∃ w₁, w₁.files.pathExists (inside dir builtMarker) = true ∧
          StageMoves shop runner dir system w w₁ w' := by
  have hcompile : Runs runner (IsStep shop (libraryDir w.files dir))
      (Marks shop dir (libraryDir w.files dir) system w.issued.length) _ w _ :=
    unlessMarked_runs ((compile_runs le_rfl).weaken (fun _ h => h) (fun _ _ h => h) fun _ _ h => .inl ⟨rfl, h⟩)
  refine hcompile.bind fun _ w₁ hm hbuilt => ?_
  have hlibs : libraryDir w₁.files dir = libraryDir w.files dir := libraryDir_congr hm.cwd dir
  have hcopy : Runs runner (IsStep shop (libraryDir w.files dir))
      (Marks shop dir (libraryDir w.files dir) system w.issued.length) _ w₁ _ :=
    unlessMarked_runs ((copyLibraries_runs (length_issued_le hm le_rfl) hlibs).weaken (fun _ h => h) (fun _ _ h => h)
      fun _ _ h => .inr ⟨rfl, h⟩)
  have hboth : Runs runner _ _ _ w₁ fun (_ : Unit) w' => w'.files.pathExists (inside dir libsMarker) = true ∧
      ∃ w₁, w₁.files.pathExists (inside dir builtMarker) = true ∧ StageMoves shop runner dir system w w₁ w' :=
    ⟨hcopy.moves, fun a ha => ⟨hcopy.result a ha, w₁, hbuilt, hcopy.moves⟩⟩
  refine hboth.bind fun _ w₂ _ h => ?_
  exact ⟨.refl w₂, fun o ho => ⟨(Except.ok.inj ho).symm, h⟩⟩

theorem stages_moves {r : Except BuildError Outcome} {w' : World σ}
    (h : (stages shop runner dir system).exec w = (r, w')) : StageMoves shop runner dir system w w w' := by
  have hmoves := (stages_runs shop runner dir system w).moves
  rwa [h] at hmoves

theorem stages_result {o : Outcome} {w' : World σ} (h : (stages shop runner dir system).exec w = (.ok o, w')) :
    w'.files.pathExists (inside dir libsMarker) = true ∧
      ∃ w₁, w₁.files.pathExists (inside dir builtMarker) = true ∧ StageMoves shop runner dir system w w₁ w' := by
  have hresult := (stages_runs shop runner dir system w).result o
  rw [h] at hresult
  exact (hresult rfl).2

theorem exec_finish (shop : Workshop) (runner : Runner σ) (dir : Path) (w : World σ) :
    (finish shop runner dir).exec w =
      if w.files.pathExists (inside dir builtMarker) && w.files.pathExists (inside dir libsMarker) then
        (.ok .alreadyBuilt, w)
      else
        match BuildSystem.detect w.files dir with
        | .error e => (.error e, w)
        | .ok system => (stages shop runner dir system).exec w := by
  rw [finish, exec_bind_ok (exec_ask _ w), exec_bind_ok (exec_ask _ w)]
  split_ifs
  · rfl
  · rw [exec_bind_ok (exec_get w), exec_bind, exec_ofExcept]
    cases BuildSystem.detect w.files dir <;> rfl

/-! ## Fetching -/

def Succeeded (c : Command) (log : List Issued) : Prop := ∃ i ∈ log, i.command = c ∧ i.answer = .ok ()

instance (c : Command) (log : List Issued) : Decidable (Succeeded c log) :=
  inferInstanceAs (Decidable (∃ i ∈ log, _ ∧ _))

def Cloned (shop : Workshop) (entry : ManifestEntry) (log : List Issued) : Prop :=
  ∃ text ∈ (shop.dirOf entry).text?, Succeeded (cloneCommand entry.url text) log

def CheckedOut (shop : Workshop) (entry : ManifestEntry) (log : List Issued) : Prop :=
  Succeeded (checkoutCommand entry.revision (shop.dirOf entry)) log

instance (entry : ManifestEntry) (log : List Issued) : Decidable (Cloned shop entry log) :=
  inferInstanceAs (Decidable (∃ text ∈ _, _))

instance (entry : ManifestEntry) (log : List Issued) : Decidable (CheckedOut shop entry log) :=
  inferInstanceAs (Decidable (Succeeded _ log))

theorem succeeded_append {c : Command} {log new : List Issued} :
    Succeeded c (log ++ new) ↔ Succeeded c log ∨ Succeeded c new := by
  simp only [Succeeded, List.mem_append, or_and_right, exists_or]

theorem not_succeeded {c : Command} {log : List Issued} (h : ∀ i ∈ log, i.command ≠ c) : ¬ Succeeded c log := by
  rintro ⟨i, hi, hc, -⟩
  exact h i hi hc

theorem cloneCommand_ne_checkoutCommand (url text revision : String) (dir : Path) :
    cloneCommand url text ≠ checkoutCommand revision dir := by
  simp [cloneCommand, checkoutCommand, Command.arg, Command.inDir]

/-- a clone names its directory -/
theorem dir_eq_of_cloneCommand {url url' text text' : String} {dir dir' : Path}
    (h : cloneCommand url text = cloneCommand url' text') (ht : dir.text? = some text) (ht' : dir'.text? = some text') :
    dir = dir' := by
  obtain ⟨-, rfl⟩ : url = url' ∧ text = text' := by simpa [cloneCommand, Command.arg] using h
  exact congrArg Path.mk (Utf8.decode_injective ht ht')

theorem IsStep.ne_checkoutCommand {libs : Path} {c : Command} (h : IsStep shop libs c) (revision : String)
    (dir : Path) : c ≠ checkoutCommand revision dir := by
  rintro rfl
  exact h.program_ne_git rfl

/-- how far fetching a repository got, with the world it left -/
inductive Fetched (runner : Runner σ) (entry : ManifestEntry) (dir : Path) (text : String) (w : World σ) :
    Except BuildError Unit → World σ → Prop
  | cloneFailed {e : BuildError} : w.answer runner (cloneCommand entry.url text) = .error e →
      Fetched runner entry dir text w (.error e) (w.after runner (cloneCommand entry.url text))
  | checkoutFailed {w' : World σ} {e : BuildError} : w.answer runner (cloneCommand entry.url text) = .ok () →
      w' = w.after runner (cloneCommand entry.url text) →
      w'.answer runner (checkoutCommand entry.revision dir) = .error e →
      Fetched runner entry dir text w (.error e) (w'.after runner (checkoutCommand entry.revision dir))
  | ignoreFailed {w' w'' : World σ} {e : BuildError} : w.answer runner (cloneCommand entry.url text) = .ok () →
      w' = w.after runner (cloneCommand entry.url text) →
      w'.answer runner (checkoutCommand entry.revision dir) = .ok () →
      w'' = w'.after runner (checkoutCommand entry.revision dir) → Fetched runner entry dir text w (.error e) w''
  | done {w' w'' : World σ} {files : FileStore} : w.answer runner (cloneCommand entry.url text) = .ok () →
      w' = w.after runner (cloneCommand entry.url text) →
      w'.answer runner (checkoutCommand entry.revision dir) = .ok () →
      w'' = w'.after runner (checkoutCommand entry.revision dir) →
      w''.files.append (inside dir ".gitignore") ignoreLines = .ok files →
      Fetched runner entry dir text w (.ok ()) { w'' with files }

theorem fetched_fetch (runner : Runner σ) (entry : ManifestEntry) (dir : Path) (text : String) (w : World σ) :
    Fetched runner entry dir text w ((fetch runner entry dir text).exec w).1
      ((fetch runner entry dir text).exec w).2 := by
  cases h₁ : w.answer runner (cloneCommand entry.url text) with
  | error e =>
    rw [fetch, exec_bind_error (by rw [exec_issue, h₁])]
    exact .cloneFailed h₁
  | ok u =>
    set w' := w.after runner (cloneCommand entry.url text) with hw'
    rw [fetch, exec_bind_ok (by rw [exec_issue, h₁])]
    cases h₂ : w'.answer runner (checkoutCommand entry.revision dir) with
    | error e =>
      rw [exec_bind_error (by rw [exec_issue, h₂])]
      exact .checkoutFailed h₁ hw' h₂
    | ok u =>
      set w'' := w'.after runner (checkoutCommand entry.revision dir) with hw''
      rw [exec_bind_ok (by rw [exec_issue, h₂]), exec_change]
      cases h₃ : w''.files.append (inside dir ".gitignore") ignoreLines with
      | error e => exact .ignoreFailed h₁ hw' h₂ hw''
      | ok files => exact .done h₁ hw' h₂ hw'' h₃

/-- how a repository is got at, with the world that leaves -/
inductive Arrives (shop : Workshop) (runner : Runner σ) (entry : ManifestEntry) (w : World σ) :
    Except BuildError Unit → World σ → Prop
  | notText : (shop.dirOf entry).text? = none →
      Arrives shop runner entry w (.error (.pathNotText (shop.dirOf entry))) w
  | there {text : String} : (shop.dirOf entry).text? = some text → w.files.pathExists (shop.dirOf entry) = true →
      Arrives shop runner entry w (.ok ()) w
  | fetch {text : String} {r : Except BuildError Unit} {w' : World σ} : (shop.dirOf entry).text? = some text →
      w.files.pathExists (shop.dirOf entry) = false → Fetched runner entry (shop.dirOf entry) text w r w' →
      Arrives shop runner entry w r w'

/-- getting at a repository: how it ran, and what it did -/
structure Arrival (shop : Workshop) (runner : Runner σ) (entry : ManifestEntry) (w : World σ)
    (r : Except BuildError Unit) (w' : World σ) : Prop where
  exec : (arrive shop runner entry).exec w = (r.map fun _ => shop.dirOf entry, w')
  arrives : Arrives shop runner entry w r w'

theorem arrival_arrive (shop : Workshop) (runner : Runner σ) (entry : ManifestEntry) (w : World σ) :
    ∃ r w', Arrival shop runner entry w r w' := by
  cases ht : (shop.dirOf entry).text? with
  | none => exact ⟨_, _, by rw [arrive, ht]; rfl, .notText ht⟩
  | some text =>
    cases hp : w.files.pathExists (shop.dirOf entry) with
    | true =>
      refine ⟨.ok (), w, ?_, .there ht hp⟩
      rw [arrive, ht]
      dsimp only
      rw [exec_bind_ok (exec_ask _ w), hp]
      rfl
    | false =>
      have hf := fetched_fetch runner entry (shop.dirOf entry) text w
      rcases he : (fetch runner entry (shop.dirOf entry) text).exec w with ⟨e | u, w'⟩
      all_goals
        rw [he] at hf
        refine ⟨_, _, ?_, .fetch ht hp hf⟩
        rw [arrive, ht]
        dsimp only
        rw [exec_bind_ok (exec_ask _ w), hp]
        simp only [Bool.not_false, if_true]
      · exact exec_bind_error he
      · exact exec_bind_ok he

theorem Arrives.text {entry : ManifestEntry} {w w' : World σ} (h : Arrives shop runner entry w (.ok ()) w') :
    (shop.dirOf entry).text?.isSome = true := by
  cases h with
  | there ht => simp [ht]
  | fetch ht => simp [ht]

theorem Arrives.length_issued_le {entry : ManifestEntry} {w w' : World σ} {r : Except BuildError Unit}
    (h : Arrives shop runner entry w r w') : w.issued.length ≤ w'.issued.length := by
  cases h with
  | notText => exact le_rfl
  | there => exact le_rfl
  | fetch _ _ hf =>
    cases hf with
    | cloneFailed => simp
    | checkoutFailed _ hw₁ => simp [hw₁]
    | ignoreFailed _ hw₁ _ hw₂ => simp [hw₂, hw₁]
    | done _ hw₁ _ hw₂ _ => simp [hw₂, hw₁]

section Spans

variable {R : FileStore → FileStore → Prop} {entry : ManifestEntry} {w w' : World σ} {r : Except BuildError Unit}

theorem Fetched.spans (hR : Spans runner R) {dir : Path} {text : String}
    (h : Fetched runner entry dir text w r w') : R w.files w'.files := by
  cases h with
  | cloneFailed => exact hR.command _ _
  | checkoutFailed _ h => subst h; exact hR.trans (hR.command _ _) (hR.command _ _)
  | ignoreFailed _ h _ h' => subst h h'; exact hR.trans (hR.command _ _) (hR.command _ _)
  | done _ h _ h' hf =>
    subst h h'
    exact hR.trans (hR.trans (hR.command _ _) (hR.command _ _)) (hR.edit hf)

theorem Arrives.spans (hR : Spans runner R) (h : Arrives shop runner entry w r w') : R w.files w'.files := by
  cases h with
  | notText => exact hR.refl _
  | there => exact hR.refl _
  | fetch _ _ hf => exact hf.spans hR

end Spans

/-! ## Processing -/

/-- what becomes of a repository, with the world that leaves -/
inductive Processes (shop : Workshop) (runner : Runner σ) (entry : ManifestEntry) (w : World σ) :
    Except BuildError Outcome → World σ → Prop
  | notArrived {e : BuildError} {w' : World σ} : Arrival shop runner entry w (.error e) w' →
      Processes shop runner entry w (.error e) w'
  | passed {w' : World σ} : Arrival shop runner entry w (.ok ()) w' →
      w'.files.pathExists (inside (shop.dirOf entry) builtMarker) = true →
      w'.files.pathExists (inside (shop.dirOf entry) libsMarker) = true →
      Processes shop runner entry w (.ok .alreadyBuilt) w'
  | undetected {e : BuildError} {w' : World σ} : Arrival shop runner entry w (.ok ()) w' →
      BuildSystem.detect w'.files (shop.dirOf entry) = .error e → Processes shop runner entry w (.error e) w'
  | staged {system : BuildSystem} {w₁ w' : World σ} {r : Except BuildError Outcome} :
      Arrival shop runner entry w (.ok ()) w₁ →
      ¬ (w₁.files.pathExists (inside (shop.dirOf entry) builtMarker) = true ∧
        w₁.files.pathExists (inside (shop.dirOf entry) libsMarker) = true) →
      BuildSystem.detect w₁.files (shop.dirOf entry) = .ok system →
      StageMoves shop runner (shop.dirOf entry) system w₁ w₁ w' →
      (∀ o, r = .ok o → w'.files.pathExists (inside (shop.dirOf entry) libsMarker) = true ∧
        ∃ w₂, w₂.files.pathExists (inside (shop.dirOf entry) builtMarker) = true ∧
          StageMoves shop runner (shop.dirOf entry) system w₁ w₂ w') → Processes shop runner entry w r w'

theorem process_of_notText {entry : ManifestEntry} (h : (shop.dirOf entry).text? = none) :
    process shop runner entry = throw (.pathNotText (shop.dirOf entry)) := by
  rw [process, arrive, h]
  rfl

theorem processes_process {entry : ManifestEntry} {w w' : World σ} {r : Except BuildError Outcome}
    (h : (process shop runner entry).exec w = (r, w')) : Processes shop runner entry w r w' := by
  obtain ⟨arrival, w₁, ha⟩ := arrival_arrive shop runner entry w
  rw [process] at h
  cases arrival with
  | error e =>
    rw [exec_bind_error ha.exec] at h
    obtain ⟨rfl, rfl⟩ := Prod.mk.inj h
    exact .notArrived ha
  | ok u =>
    rw [exec_bind_ok ha.exec, exec_finish] at h
    split_ifs at h with hb
    · obtain ⟨rfl, rfl⟩ := Prod.mk.inj h
      obtain ⟨hbuilt, hlibs⟩ := Bool.and_eq_true_iff.1 hb
      exact .passed ha hbuilt hlibs
    · split at h
      · rename_i hd
        obtain ⟨rfl, rfl⟩ := Prod.mk.inj h
        exact .undetected ha hd
      · rename_i system hd
        exact .staged ha (by simpa using hb) hd (stages_moves h) fun o ho => stages_result (ho ▸ h)

theorem Processes.spans {R : FileStore → FileStore → Prop} (hR : Spans runner R) {entry : ManifestEntry}
    {w w' : World σ} {r : Except BuildError Outcome} (h : Processes shop runner entry w r w') :
    R w.files w'.files := by
  cases h with
  | notArrived ha => exact ha.arrives.spans hR
  | passed ha => exact ha.arrives.spans hR
  | undetected ha => exact ha.arrives.spans hR
  | staged ha _ _ hmoves => exact hR.trans (ha.arrives.spans hR) (hR.moves hmoves)

theorem Processes.cwd {entry : ManifestEntry} {w w' : World σ} {r : Except BuildError Outcome}
    (h : Processes shop runner entry w r w') : w'.files.cwd = w.files.cwd :=
  h.spans (R := fun fs fs' => fs'.cwd = fs.cwd)
    ⟨fun _ => rfl, fun h h' => h'.trans h, fun _ _ => rfl, fun h => (FileStore.edit_extends h).cwd⟩

/-- a repository that is done was got at, went through build steps and has its last marker -/
theorem Processes.done {entry : ManifestEntry} {w w' : World σ} {o : Outcome}
    (h : Processes shop runner entry w (.ok o) w') :
    ∃ w₁ libs F, Arrives shop runner entry w (.ok ()) w₁ ∧ Moves runner (IsStep shop libs) F w₁ w' ∧
      w'.files.pathExists (inside (shop.dirOf entry) libsMarker) = true := by
  cases h with
  | passed ha _ hlibs => exact ⟨_, shop.reposDir, fun _ _ => False, ha.arrives, .refl _, hlibs⟩
  | staged ha _ _ hm hdone => exact ⟨_, _, _, ha.arrives, hm, (hdone o rfl).1⟩

theorem exec_processAll_cons {e : ManifestEntry} {es : List ManifestEntry} {w w' : World σ}
    (h : (processAll shop runner (e :: es)).exec w = (.ok (), w')) :
    ∃ o w₁, (process shop runner e).exec w = (.ok o, w₁) ∧ (processAll shop runner es).exec w₁ = (.ok (), w') := by
  rw [processAll] at h
  rcases he : (process shop runner e).exec w with ⟨r | o, w₁⟩
  · rw [exec_bind_error he] at h
    cases h
  · rw [exec_bind_ok he] at h
    exact ⟨o, w₁, rfl, h⟩

theorem exec_run_ok {es : List ManifestEntry} {w w' : World σ} (h : (run shop runner es).exec w = (.ok (), w')) :
    ∃ files, w.files.makeDirs shop.reposDir = (.ok (), files) ∧
      (processAll shop runner es).exec { w with files } = (.ok (), w') := by
  have hmake := exec_makeDirs shop.reposDir w
  rcases hm : w.files.makeDirs shop.reposDir with ⟨e | u, files⟩
  · rw [hm] at hmake
    rw [run, exec_bind_error hmake] at h
    cases h
  · rw [hm] at hmake
    rw [run, exec_bind_ok hmake] at h
    exact ⟨files, rfl, h⟩

end Repository

end Benchwork.Build
