/-
The plan of a repository.

What is to be done for a repository can be written down as a list (`plan`), going by three states of the files: those
before, those when the repository is there, and those when it is compiled. The list has the commands in it and, at their
places, what is done to the files: the ignore list, the search for descriptors, the markers. A call works the list off
from its start.

`Followed` says how work is done, from one world to another: a git command is run once, a build step is attempted under
one runtime after another, as long as it fails by its exit code, and the files are edited and searched as they are by
then. A call ends with the first piece of work that fails and with its failure. If nothing fails, all of the plan is done,
and what the call comes to can be read off the files (`ending`).

`Course` says of a part of a call that it works off its part of the plan; the parts are put together with `Course.bind`
and `Course.forM`.
-/
import Benchwork.Proofs.Build.Closest
import Benchwork.Proofs.Build.Stages

namespace Benchwork.Build.Repository

open Benchwork.Text Session

/-! ## Work -/

inductive Edit where
  | append (bytes : List UInt8)
  | touch
  deriving DecidableEq, Repr

def Edit.apply (p : Path) (fs : FileStore) : Edit → Except Fault FileStore
  | .append bytes => fs.append p bytes
  | .touch => fs.touch p

/-- a piece of work: a git command, a build step, an edit of a file, or a search for descriptors -/
inductive Work where
  | git (c : Command)
  | step (c : Command)
  | edit (p : Path) (edit : Edit)
  | search (dir : Path)
  deriving DecidableEq, Repr

variable {σ : Type} {shop : Workshop} {runner : Runner σ}

/-- the attempts at a command under runtimes, from one world to another, with the answers to them and the result; `last`
is the failure to report when there are none left -/
inductive Attempted (runner : Runner σ) (c : Command) :
    BuildError → List JavaRuntime → World σ → List Issued → World σ → Except BuildError Unit → Prop
  | exhausted {last : BuildError} {w : World σ} : Attempted runner c last [] w [] w (.error last)
  | succeeded {last : BuildError} {rt : JavaRuntime} {rest : List JavaRuntime} {w : World σ} :
      w.answer runner (c.withEnv "JAVA_HOME" rt.home) = .ok () →
      Attempted runner c last (rt :: rest) w [⟨c.withEnv "JAVA_HOME" rt.home, .ok ()⟩]
        (w.after runner (c.withEnv "JAVA_HOME" rt.home)) (.ok ())
  | next {last err : BuildError} {rt : JavaRuntime} {rest : List JavaRuntime} {w w' : World σ} {log : List Issued}
      {result : Except BuildError Unit} :
      w.answer runner (c.withEnv "JAVA_HOME" rt.home) = .error err → err.isCommandFailed = true →
      Attempted runner c err rest (w.after runner (c.withEnv "JAVA_HOME" rt.home)) log w' result →
      Attempted runner c last (rt :: rest) w (⟨c.withEnv "JAVA_HOME" rt.home, .error err⟩ :: log) w' result
  | broken {last err : BuildError} {rt : JavaRuntime} {rest : List JavaRuntime} {w : World σ} :
      w.answer runner (c.withEnv "JAVA_HOME" rt.home) = .error err → err.isCommandFailed = false →
      Attempted runner c last (rt :: rest) w [⟨c.withEnv "JAVA_HOME" rt.home, .error err⟩]
        (w.after runner (c.withEnv "JAVA_HOME" rt.home)) (.error err)

/-- a piece of work that was done in the world `w`: the commands issued for it with the answers to them, the world it
left, and the result -/
inductive Work.Done (shop : Workshop) (runner : Runner σ) (w : World σ) :
    Work → List Issued → World σ → Except BuildError Unit → Prop
  | git {c : Command} {answer : Except BuildError Unit} : w.answer runner c = answer →
      Done shop runner w (.git c) [⟨c, answer⟩] (w.after runner c) answer
  | step {c : Command} {log : List Issued} {w' : World σ} {result : Except BuildError Unit} :
      Attempted runner c .noRuntimes shop.runtimes w log w' result → Done shop runner w (.step c) log w' result
  | edited {p : Path} {edit : Edit} {files : FileStore} : edit.apply p w.files = .ok files →
      Done shop runner w (.edit p edit) [] { w with files } (.ok ())
  | unedited {p : Path} {edit : Edit} {f : Fault} : edit.apply p w.files = .error f →
      Done shop runner w (.edit p edit) [] w (.error (.file p (.fault f)))
  | searched {dir : Path} {met : List (Location × Kind)} : Descriptor.walk w.files dir = .ok met →
      Done shop runner w (.search dir) [] w (.ok ())
  | unsearched {dir : Path} {err : BuildError} : Descriptor.walk w.files dir = .error err →
      Done shop runner w (.search dir) [] w (.error err)

/-- pieces of work that were done one after another, of which only the last can have failed -/
inductive Followed (shop : Workshop) (runner : Runner σ) :
    List Work → World σ → List Issued → World σ → Except BuildError Unit → Prop
  | nil {w : World σ} : Followed shop runner [] w [] w (.ok ())
  | cons {x : Work} {xs : List Work} {w w₁ w' : World σ} {log log' : List Issued} {result : Except BuildError Unit} :
      x.Done shop runner w log w₁ (.ok ()) → Followed shop runner xs w₁ log' w' result →
      Followed shop runner (x :: xs) w (log ++ log') w' result
  | stop {x : Work} {w w' : World σ} {log : List Issued} {err : BuildError} :
      x.Done shop runner w log w' (.error err) → Followed shop runner [x] w log w' (.error err)

section Followed

variable {c : Command} {last : BuildError} {rts : List JavaRuntime} {x : Work} {xs ys : List Work} {w w₁ w' : World σ}
  {log log' : List Issued} {result : Except BuildError Unit}

theorem Followed.append (h : Followed shop runner xs w log w₁ (.ok ())) (h' : Followed shop runner ys w₁ log' w' result) :
    Followed shop runner (xs ++ ys) w (log ++ log') w' result := by
  generalize hok : Except.ok () = r at h
  induction h with
  | nil => exact h'
  | cons hx _ ih =>
    rw [List.cons_append, List.append_assoc]
    exact .cons hx (ih h' hok)
  | stop => cases hok

theorem Followed.single (h : x.Done shop runner w log w' result) : Followed shop runner [x] w log w' result := by
  cases result with
  | ok u =>
    rw [← List.append_nil log]
    exact .cons h .nil
  | error err => exact .stop h

/-! The log is what the world has on record. -/

theorem Attempted.issued (h : Attempted runner c last rts w log w' result) : w'.issued = w.issued ++ log := by
  induction h with
  | exhausted => rw [List.append_nil]
  | succeeded hanswer => rw [World.issued_after, hanswer]
  | next hanswer _ _ ih => rw [ih, World.issued_after, hanswer, List.append_assoc, List.singleton_append]
  | broken hanswer _ => rw [World.issued_after, hanswer]

theorem Work.Done.issued (h : x.Done shop runner w log w' result) : w'.issued = w.issued ++ log := by
  cases h with
  | git hanswer => rw [World.issued_after, hanswer]
  | step hattempted => exact hattempted.issued
  | edited _ => exact (List.append_nil _).symm
  | unedited _ => exact (List.append_nil _).symm
  | searched _ => exact (List.append_nil _).symm
  | unsearched _ => exact (List.append_nil _).symm

theorem Followed.issued (h : Followed shop runner xs w log w' result) : w'.issued = w.issued ++ log := by
  induction h with
  | nil => rw [List.append_nil]
  | cons hx _ ih => rw [ih, hx.issued, List.append_assoc]
  | stop hx => exact hx.issued

/-- a command that a piece of work consists of -/
def Work.Issues (shop : Workshop) (c : Command) : Work → Prop
  | .git c' => c = c'
  | .step c' => ∃ rt ∈ shop.runtimes, c = c'.withEnv "JAVA_HOME" rt.home
  | .edit _ _ => False
  | .search _ => False

theorem Attempted.issues (h : Attempted runner c last rts w log w' result) :
    ∀ i ∈ log, ∃ rt ∈ rts, i.command = c.withEnv "JAVA_HOME" rt.home := by
  induction h with
  | exhausted => simp
  | succeeded => simp
  | broken => simp
  | @next _ _ rt rest _ _ _ _ _ _ _ ih =>
    intro i hi
    rcases List.mem_cons.1 hi with rfl | hi
    · exact ⟨rt, List.mem_cons_self, rfl⟩
    · obtain ⟨rt', hrt', hc⟩ := ih i hi
      exact ⟨rt', List.mem_cons_of_mem rt hrt', hc⟩

theorem Work.Done.issues (h : x.Done shop runner w log w' result) : ∀ i ∈ log, x.Issues shop i.command := by
  cases h with
  | git => simp [Work.Issues]
  | step hattempted => exact hattempted.issues
  | edited => simp
  | unedited => simp
  | searched => simp
  | unsearched => simp

theorem Followed.issues (h : Followed shop runner xs w log w' result) :
    ∀ i ∈ log, ∃ x ∈ xs, x.Issues shop i.command := by
  induction h with
  | nil => simp
  | @cons x xs _ _ _ _ _ _ hx _ ih =>
    intro i hi
    rcases List.mem_append.1 hi with hi | hi
    · exact ⟨x, List.mem_cons_self, hx.issues i hi⟩
    · obtain ⟨y, hy, hc⟩ := ih i hi
      exact ⟨y, List.mem_cons_of_mem x hy, hc⟩
  | stop hx => exact fun i hi => ⟨_, List.mem_cons_self, hx.issues i hi⟩

end Followed

/-! ## The plan -/

def fetchWork (shop : Workshop) (e : ManifestEntry) (before : FileStore) : List Work :=
  let dir := shop.dirOf e
  if before.pathExists dir then []
  else
    [.git (cloneCommand e.url dir.display), .git (checkoutCommand e.revision dir),
     .edit (inside dir ".gitignore") (.append ignoreLines)]

/-- what it takes to compile a repository; compiling a Gradle project settles both markers -/
def compileWork (dir : Path) : BuildSystem → List Work
  | .maven poms =>
    (poms.map fun pom => .step (stepCommand mavenCompile pom)) ++ [.edit (inside dir builtMarker) .touch]
  | .gradle wrappers =>
    (wrappers.map fun wrapper => .step (stepCommand gradleClasses wrapper)) ++
      [.edit (inside dir libsMarker) .touch, .edit (inside dir builtMarker) .touch]
  | .unknown => []

/-- what it takes to put the libraries of a repository into `libs` -/
def libraryWork (dir libs : Path) : BuildSystem → List Work
  | .maven poms =>
    (poms.flatMap fun pom => [.step (stepCommand mavenInstall pom), .step (stepCommand (mavenCopy libs) pom)]) ++
      [.edit (inside dir libsMarker) .touch]
  | .gradle _ => []
  | .unknown => []

def isDone (dir : Path) (fs : FileStore) : Bool :=
  fs.pathExists (inside dir builtMarker) && fs.pathExists (inside dir libsMarker)

/-- the stages that are missing: `found` are the files when the repository is there, `compiled` those when it is
compiled -/
def stageWork (dir : Path) (found compiled : FileStore) (system : BuildSystem) : List Work :=
  (if found.pathExists (inside dir builtMarker) then [] else compileWork dir system) ++
    if compiled.pathExists (inside dir libsMarker) then [] else libraryWork dir (libraryDir compiled dir) system

/-- what it takes to build a repository -/
def buildWork (dir : Path) (found compiled : FileStore) : List Work :=
  if isDone dir found then []
  else
    .search dir ::
      match Descriptor.walk found dir with
      | .error _ => []
      | .ok met => stageWork dir found compiled (systemMet dir met)

/-- what is to be done for a repository; no command can name it if its path is no text -/
def plan (shop : Workshop) (e : ManifestEntry) (before found compiled : FileStore) : List Work :=
  if (shop.dirOf e).text?.isNone then []
  else fetchWork shop e before ++ buildWork (shop.dirOf e) found compiled

/-- what becomes of a repository when its missing stages are done: without descriptors there are none, and the libraries of
a Gradle project that was compiled before cannot be had -/
def stagesEnding (dir : Path) (found : FileStore) : BuildSystem → Except BuildError Outcome
  | .maven _ => .ok .built
  | .gradle _ =>
    if found.pathExists (inside dir builtMarker) then .error (.gradleDependencies dir) else .ok .built
  | .unknown => .error (unknownSystem found dir)

/-- what a call comes to when all of its plan is done; `found` are the files when the repository is there -/
def ending (dir : Path) (found : FileStore) : Except BuildError Outcome :=
  if dir.text?.isNone then .error (.pathNotText dir)
  else if isDone dir found then .ok .alreadyBuilt
  else (Descriptor.walk found dir).bind fun met => stagesEnding dir found (systemMet dir met)

/-- the world when a repository has been got at -/
def arrived (shop : Workshop) (runner : Runner σ) (e : ManifestEntry) (w : World σ) : World σ :=
  ((arrive shop runner e).exec w).2

/-- the world when a repository that was got at in the world `w` is compiled, or failed to be -/
def afterCompile (shop : Workshop) (runner : Runner σ) (dir : Path) (w : World σ) : World σ :=
  match BuildSystem.detect w.files dir with
  | .error _ => w
  | .ok system => ((unlessMarked (inside dir builtMarker) (compile shop runner system dir)).exec w).2

/-! ## Parts of a call -/

section Course

variable {α β : Type}

/-- how a part of a call comes out when `rest` of its work is left and the work went as `result` tells: with the failure
of the work or, if nothing failed, with no work left and with `outcome` -/
inductive Closes (outcome : Except BuildError α) : List Work → Except BuildError Unit → Except BuildError α → Prop
  | failed {rest : List Work} {err : BuildError} : Closes outcome rest (.error err) (.error err)
  | finished : Closes outcome [] (.ok ()) outcome

/-- the session works off `work` from its start and does nothing else; it comes to `outcome` if nothing fails -/
def Course (shop : Workshop) (runner : Runner σ) (outcome : Except BuildError α) (x : Session σ α) (w : World σ)
    (work : List Work) : Prop :=
  ∃ done rest log result, work = done ++ rest ∧ Followed shop runner done w log (x.exec w).2 result ∧
    Closes outcome rest result (x.exec w).1

variable {x : Session σ α} {w : World σ} {a : α} {work work' : List Work} {outcome : Except BuildError β}

theorem Course.pure (a : α) (w : World σ) : Course shop runner (.ok a) (pure a) w [] :=
  ⟨[], [], [], .ok (), rfl, .nil, .finished⟩

theorem Course.throw (err : BuildError) (w : World σ) :
    Course shop runner (.error err) (MonadExcept.throw err : Session σ α) w [] :=
  ⟨[], [], [], .ok (), rfl, .nil, .finished⟩

theorem Course.of_exec_eq {outcome : Except BuildError α} {y : Session σ α} (h : x.exec w = y.exec w)
    (hy : Course shop runner outcome y w work) : Course shop runner outcome x w work := by
  rw [Course, h]
  exact hy

theorem Course.bind {f : α → Session σ β} (hx : Course shop runner (.ok a) x w work)
    (hf : ∀ w', x.exec w = (.ok a, w') → Course shop runner outcome (f a) w' work') :
    Course shop runner outcome (x >>= f) w (work ++ work') := by
  obtain ⟨done, rest, log, result, hwork, hfollowed, hcloses⟩ := hx
  rcases he : x.exec w with ⟨err | a', w'⟩
  · rw [he] at hfollowed hcloses
    cases hcloses with
    | failed =>
      refine ⟨done, rest ++ work', log, .error err, by rw [hwork, List.append_assoc], ?_, ?_⟩
      · rw [exec_bind_error he]
        exact hfollowed
      · rw [exec_bind_error he]
        exact .failed
  · rw [he] at hfollowed hcloses
    cases hcloses with
    | finished =>
      obtain ⟨done', rest', log', result', hwork', hfollowed', hcloses'⟩ := hf w' he
      refine ⟨done ++ done', rest', log ++ log', result', by rw [hwork, hwork']; simp, ?_, ?_⟩
      · rw [exec_bind_ok he]
        exact hfollowed.append hfollowed'
      · rw [exec_bind_ok he]
        exact hcloses'

theorem Course.bind_pure {b : β} (hx : Course shop runner (.ok a) x w work) :
    Course shop runner (.ok b) (x >>= fun _ => Pure.pure b) w work := by
  have hboth := hx.bind (f := fun _ => Pure.pure b) fun w' _ => .pure b w'
  rwa [List.append_nil] at hboth

/-- a question does no work -/
theorem Course.bind_read {f : α → Session σ β} (hx : x.exec w = (.ok a, w))
    (hf : Course shop runner outcome (f a) w work) : Course shop runner outcome (x >>= f) w work :=
  .of_exec_eq (exec_bind_ok hx) hf

theorem Course.forM {γ : Type} {f : γ → Session σ Unit} {work : γ → List Work}
    (h : ∀ x w, Course shop runner (.ok ()) (f x) w (work x)) (l : List γ) (w : World σ) :
    Course shop runner (.ok ()) (l.forM f) w (l.flatMap work) := by
  induction l generalizing w with
  | nil => exact .pure () w
  | cons x l ih => exact (h x w).bind fun w' _ => ih w'

theorem issue_course (c : Command) (w : World σ) : Course shop runner (.ok ()) (issue runner c) w [.git c] := by
  rw [Course, exec_issue]
  refine ⟨[.git c], [], [⟨c, w.answer runner c⟩], w.answer runner c, rfl, .single (.git rfl), ?_⟩
  cases w.answer runner c with
  | ok u => exact .finished
  | error err => exact .failed

theorem change_course (p : Path) (edit : Edit) (w : World σ) :
    Course shop runner (.ok ()) (change p fun fs => edit.apply p fs) w [.edit p edit] := by
  rw [Course, exec_change]
  cases hedit : edit.apply p w.files with
  | ok files => exact ⟨[.edit p edit], [], [], .ok (), rfl, .single (.edited hedit), .finished⟩
  | error f => exact ⟨[.edit p edit], [], [], .error _, rfl, .single (.unedited hedit), .failed⟩

end Course

/-- attempts go on as long as they fail by their exit code -/
theorem attempted_tryRuntimes (runner : Runner σ) (c : Command) (last : BuildError) (rts : List JavaRuntime)
    (w : World σ) :
    ∃ log, Attempted runner c last rts w log ((tryRuntimes runner c last rts).exec w).2
      (((tryRuntimes runner c last rts).exec w).1.map fun _ => ()) := by
  induction rts generalizing last w with
  | nil => exact ⟨[], .exhausted⟩
  | cons rt rest ih =>
    rw [exec_tryRuntimes_cons]
    cases ha : w.answer runner (c.withEnv "JAVA_HOME" rt.home) with
    | ok u => exact ⟨_, .succeeded ha⟩
    | error err =>
      dsimp only
      cases hf : err.isCommandFailed with
      | true =>
        rw [if_pos rfl]
        obtain ⟨log, hattempted⟩ := ih err (w.after runner (c.withEnv "JAVA_HOME" rt.home))
        exact ⟨_, .next ha hf hattempted⟩
      | false =>
        rw [if_neg (by simp)]
        exact ⟨_, .broken ha hf⟩

theorem buildStep_course (line : String) (d : Path) (w : World σ) :
    Course shop runner (.ok ()) (buildStep shop runner line d) w [.step (stepCommand line d)] := by
  obtain ⟨log, hattempted⟩ := attempted_tryRuntimes runner (stepCommand line d) .noRuntimes shop.runtimes w
  rw [Course, buildStep, underRuntimes, exec_bind]
  rcases he : (tryRuntimes runner (stepCommand line d) .noRuntimes shop.runtimes).exec w with ⟨err | rt, w'⟩
  · rw [he] at hattempted
    exact ⟨[.step (stepCommand line d)], [], log, .error err, rfl, .single (.step hattempted), .failed⟩
  · rw [he] at hattempted
    exact ⟨[.step (stepCommand line d)], [], log, .ok (), rfl, .single (.step hattempted), .finished⟩

/-! ## The stages -/

section Stages

variable {dir : Path} {w : World σ} {system : BuildSystem}

/-- a stage is left out where its marker is there -/
theorem unlessMarked_course {stage : Session σ Unit} {work : List Work}
    (hstage : Course shop runner (.ok ()) stage w work) (marker : Path) :
    Course shop runner (.ok ()) (unlessMarked marker stage) w
      (if w.files.pathExists marker then [] else work ++ [.edit marker .touch]) := by
  refine .bind_read (exec_ask _ w) ?_
  cases w.files.pathExists marker with
  | true => exact .pure () w
  | false => exact hstage.bind fun w' _ => change_course marker .touch w'

theorem buildSteps_course (line : String) (ds : List Path) (w : World σ) :
    Course shop runner (.ok ()) (ds.forM (buildStep shop runner line)) w
      (ds.map fun d => .step (stepCommand line d)) := by
  rw [List.map_eq_flatMap]
  exact .forM (buildStep_course line) ds w

theorem compileGradle_course (wrappers : List Path) (w : World σ) :
    Course shop runner (.ok ()) (unlessMarked (inside dir builtMarker) (compile shop runner (.gradle wrappers) dir)) w
      (if w.files.pathExists (inside dir builtMarker) then [] else compileWork dir (.gradle wrappers)) := by
  have hcompile : Course shop runner (.ok ()) (compile shop runner (.gradle wrappers) dir) w _ :=
    (buildSteps_course gradleClasses wrappers w).bind fun w' _ => change_course (inside dir libsMarker) .touch w'
  have hmarked := unlessMarked_course hcompile (inside dir builtMarker)
  rwa [List.append_assoc] at hmarked

theorem copyMaven_course (poms : List Path) (w : World σ) :
    Course shop runner (.ok ()) (copyLibraries shop runner (.maven poms) dir) w
      (poms.flatMap fun pom =>
        [.step (stepCommand mavenInstall pom), .step (stepCommand (mavenCopy (libraryDir w.files dir)) pom)]) := by
  refine .bind_read (exec_get w) ?_
  refine .forM (fun pom w' => ?_) poms w
  rw [← List.singleton_append]
  exact (buildStep_course mavenInstall pom w').bind fun w'' _ => buildStep_course _ pom w''

theorem exec_unlessMarked_ok {marker : Path} {stage : Session σ Unit} {w' : World σ}
    (h : (unlessMarked marker stage).exec w = (.ok (), w')) :
    w.files.pathExists marker = true ∧ w' = w ∨
      w.files.pathExists marker = false ∧ ∃ w₁ files, stage.exec w = (.ok (), w₁) ∧
        w₁.files.touch marker = .ok files ∧ w' = { w₁ with files } := by
  rw [unlessMarked, exec_bind_ok (exec_ask _ w)] at h
  cases hm : w.files.pathExists marker with
  | true =>
    rw [hm] at h
    exact .inl ⟨rfl, (Prod.mk.inj h).2.symm⟩
  | false =>
    rw [hm] at h
    obtain ⟨_, w₁, hstage, htouch⟩ := exec_bind_eq_ok h
    obtain ⟨files, hf, rfl⟩ := exec_change_eq_ok htouch
    exact .inr ⟨rfl, w₁, files, hstage, hf, rfl⟩

theorem exec_unlessMarked_of_marked {marker : Path} (stage : Session σ Unit) (h : w.files.pathExists marker = true) :
    (unlessMarked marker stage).exec w = (.ok (), w) := by
  rw [unlessMarked, exec_bind_ok (exec_ask _ w), h]
  rfl

/-- a stage that refuses to start -/
theorem exec_unlessMarked_of_error {marker : Path} {stage : Session σ Unit} {err : BuildError}
    (h : w.files.pathExists marker = false) (hstage : stage.exec w = (.error err, w)) :
    (unlessMarked marker stage).exec w = (.error err, w) := by
  rw [unlessMarked, exec_bind_ok (exec_ask _ w), h]
  exact exec_bind_error hstage

/-- a Gradle project that was just compiled has both markers -/
theorem libs_of_gradle {wrappers : List Path} {w' : World σ} (hbuilt : w.files.pathExists (inside dir builtMarker) = false)
    (h : (unlessMarked (inside dir builtMarker) (compile shop runner (.gradle wrappers) dir)).exec w = (.ok (), w')) :
    w'.files.pathExists (inside dir libsMarker) = true := by
  rcases exec_unlessMarked_ok h with ⟨hthere, -⟩ | ⟨-, w₁, files, hcompile, htouched, rfl⟩
  · rw [hthere] at hbuilt
    cases hbuilt
  · obtain ⟨_, w₂, -, hlibs⟩ := exec_bind_eq_ok hcompile
    obtain ⟨files', hf, rfl⟩ := exec_change_eq_ok hlibs
    exact (FileStore.edit_extends htouched).pathExists (FileStore.edit_pathExists hf)

theorem libs_of_built (hdone : isDone dir w.files = false) (hbuilt : w.files.pathExists (inside dir builtMarker) = true) :
    w.files.pathExists (inside dir libsMarker) = false := by
  rwa [isDone, hbuilt, Bool.true_and] at hdone

/-- the second stage is the one that refuses to start -/
theorem exec_stages_of_built {err : BuildError} (hdone : isDone dir w.files = false)
    (hbuilt : w.files.pathExists (inside dir builtMarker) = true)
    (hcopy : (copyLibraries shop runner system dir).exec w = (.error err, w)) :
    (stages shop runner dir system).exec w = (.error err, w) := by
  rw [stages, exec_bind_ok (exec_unlessMarked_of_marked _ hbuilt)]
  exact exec_bind_error (exec_unlessMarked_of_error (libs_of_built hdone hbuilt) hcopy)

/-- without descriptors neither stage starts -/
theorem exec_stages_unknown (shop : Workshop) (runner : Runner σ) (hdone : isDone dir w.files = false) :
    (stages shop runner dir .unknown).exec w = (.error (unknownSystem w.files dir), w) := by
  cases hbuilt : w.files.pathExists (inside dir builtMarker) with
  | true => exact exec_stages_of_built hdone hbuilt (exec_bind_ok (exec_get w))
  | false => exact exec_bind_error (exec_unlessMarked_of_error hbuilt (exec_bind_ok (exec_get w)))

theorem afterCompile_of_detect {w' : World σ} (hdetect : BuildSystem.detect w.files dir = .ok system)
    (hexec : (unlessMarked (inside dir builtMarker) (compile shop runner system dir)).exec w = (.ok (), w')) :
    afterCompile shop runner dir w = w' := by
  simp only [afterCompile, hdetect, hexec]

/-- going through the stages of a repository that was got at in the world `w` -/
theorem stages_course (shop : Workshop) (runner : Runner σ) (hdone : isDone dir w.files = false)
    (hdetect : BuildSystem.detect w.files dir = .ok system) :
    Course shop runner (stagesEnding dir w.files system) (stages shop runner dir system) w
      (stageWork dir w.files (afterCompile shop runner dir w).files system) := by
  cases system with
  | maven poms =>
    refine (unlessMarked_course (buildSteps_course mavenCompile poms w) _).bind fun w₁ hexec => ?_
    rw [afterCompile_of_detect hdetect hexec]
    exact (unlessMarked_course (copyMaven_course poms w₁) _).bind_pure
  | gradle wrappers =>
    cases hbuilt : w.files.pathExists (inside dir builtMarker) with
    | true =>
      have hwork : stageWork dir w.files (afterCompile shop runner dir w).files (.gradle wrappers) = [] := by
        simp [stageWork, hbuilt, libraryWork]
      rw [hwork, stagesEnding, if_pos hbuilt]
      exact .of_exec_eq (exec_stages_of_built hdone hbuilt rfl) (.throw _ w)
    | false =>
      rw [stagesEnding, hbuilt, if_neg Bool.false_ne_true]
      refine (compileGradle_course wrappers w).bind fun w₁ hexec => ?_
      rw [afterCompile_of_detect hdetect hexec, libs_of_gradle hbuilt hexec, if_pos rfl]
      exact .of_exec_eq (exec_bind_ok (exec_unlessMarked_of_marked _ (libs_of_gradle hbuilt hexec))) (.pure _ w₁)
  | unknown =>
    have hwork : stageWork dir w.files (afterCompile shop runner dir w).files .unknown = [] := by
      simp [stageWork, compileWork, libraryWork]
    rw [hwork]
    exact .of_exec_eq (exec_stages_unknown shop runner hdone) (.throw _ w)

/-- building a repository that was got at in the world `w` -/
theorem finish_course (shop : Workshop) (runner : Runner σ) (w : World σ) (htext : dir.text?.isNone = false) :
    Course shop runner (ending dir w.files) (finish shop runner dir) w
      (buildWork dir w.files (afterCompile shop runner dir w).files) := by
  have hexec := exec_finish shop runner dir w
  change _ = if isDone dir w.files then _ else _ at hexec
  rw [buildWork, ending, htext, if_neg Bool.false_ne_true]
  cases hdone : isDone dir w.files with
  | true =>
    rw [hdone] at hexec
    exact .of_exec_eq hexec (.pure Outcome.alreadyBuilt w)
  | false =>
    rw [hdone, detect_eq_map] at hexec
    rw [if_neg Bool.false_ne_true, if_neg Bool.false_ne_true]
    cases hwalk : Descriptor.walk w.files dir with
    | error err =>
      rw [hwalk] at hexec
      rw [Course, hexec]
      exact ⟨[.search dir], [], [], .error err, rfl, .single (.unsearched hwalk), .failed⟩
    | ok met =>
      rw [hwalk] at hexec
      have hdetect : BuildSystem.detect w.files dir = .ok (systemMet dir met) := by rw [detect_eq_map, hwalk]; rfl
      obtain ⟨done, rest, log, result, hwork, hfollowed, hcloses⟩ :=
        stages_course shop runner hdone hdetect
      rw [Course, hexec]
      exact ⟨.search dir :: done, rest, log, result, congrArg (Work.search dir :: ·) hwork,
        .cons (.searched hwalk) hfollowed, hcloses⟩

end Stages

/-! ## The whole call -/

theorem display_of_text {p : Path} {text : String} (h : p.text? = some text) : p.display = text :=
  Utf8.lossy_of_decode h

theorem fetch_course (e : ManifestEntry) (dir : Path) (text : String) (w : World σ) :
    Course shop runner (.ok ()) (fetch runner e dir text) w
      [.git (cloneCommand e.url text), .git (checkoutCommand e.revision dir),
       .edit (inside dir ".gitignore") (.append ignoreLines)] := by
  refine (issue_course (cloneCommand e.url text) w).bind fun w₁ _ => ?_
  refine (issue_course (checkoutCommand e.revision dir) w₁).bind fun w₂ _ => ?_
  exact change_course (inside dir ".gitignore") (.append ignoreLines) w₂

theorem arrive_course {e : ManifestEntry} (w : World σ) (htext : (shop.dirOf e).text?.isNone = false) :
    Course shop runner (.ok (shop.dirOf e)) (arrive shop runner e) w (fetchWork shop e w.files) := by
  rw [arrive, fetchWork]
  generalize shop.dirOf e = dir at htext
  cases ht : dir.text? with
  | none => simp [ht] at htext
  | some text =>
    rw [display_of_text ht]
    refine .bind_read (exec_ask _ w) ?_
    cases w.files.pathExists dir with
    | true => exact .pure dir w
    | false => exact (fetch_course e dir text w).bind_pure

theorem process_course (shop : Workshop) (runner : Runner σ) (e : ManifestEntry) (w : World σ) :
    Course shop runner (ending (shop.dirOf e) (arrived shop runner e w).files) (process shop runner e) w
      (plan shop e w.files (arrived shop runner e w).files
        (afterCompile shop runner (shop.dirOf e) (arrived shop runner e w)).files) := by
  rw [plan]
  cases htext : (shop.dirOf e).text?.isNone with
  | true =>
    rw [process_of_notText (Option.isNone_iff_eq_none.1 htext), ending, if_pos htext]
    exact .throw _ w
  | false =>
    refine (arrive_course w htext).bind fun w₁ hexec => ?_
    rw [arrived, hexec]
    exact finish_course shop runner w₁ htext

def compileLines : List String := [mavenCompile, gradleClasses]

def libraryLines (libs : Path) : List String := [mavenInstall, mavenCopy libs]

def descriptorsOf : BuildSystem → List Path
  | .maven poms => poms
  | .gradle wrappers => wrappers
  | .unknown => []

/-- the commands that a call can issue: `before` are the files at its start, `found` those when it has got at the
repository -/
inductive Warranted (shop : Workshop) (e : ManifestEntry) (before found : FileStore) : Command → Prop
  | clone {text : String} : before.pathExists (shop.dirOf e) = false → (shop.dirOf e).text? = some text →
      Warranted shop e before found (cloneCommand e.url text)
  | checkout : before.pathExists (shop.dirOf e) = false →
      Warranted shop e before found (checkoutCommand e.revision (shop.dirOf e))
  | compile {met : List (Location × Kind)} {line : String} {d : Path} {rt : JavaRuntime} :
      Descriptor.walk found (shop.dirOf e) = .ok met → d ∈ descriptorsOf (systemMet (shop.dirOf e) met) →
      found.pathExists (inside (shop.dirOf e) builtMarker) = false → line ∈ compileLines → rt ∈ shop.runtimes →
      Warranted shop e before found (attempt line d rt)
  | library {met : List (Location × Kind)} {line : String} {libs d : Path} {rt : JavaRuntime} :
      Descriptor.walk found (shop.dirOf e) = .ok met → d ∈ descriptorsOf (systemMet (shop.dirOf e) met) →
      line ∈ libraryLines libs → rt ∈ shop.runtimes → Warranted shop e before found (attempt line d rt)

section Issues

variable {x : Work} {c : Command} {system : BuildSystem}

theorem issues_compileWork {dir : Path} (hx : x ∈ compileWork dir system) (hc : x.Issues shop c) :
    ∃ line ∈ compileLines, ∃ d ∈ descriptorsOf system, ∃ rt ∈ shop.runtimes, c = attempt line d rt := by
  cases system with
  | maven poms =>
    rcases List.mem_append.1 hx with hx | hx
    · obtain ⟨d, hd, rfl⟩ := List.mem_map.1 hx
      exact ⟨mavenCompile, by simp [compileLines], d, hd, hc⟩
    · rw [List.mem_singleton.1 hx] at hc
      exact hc.elim
  | gradle wrappers =>
    rcases List.mem_append.1 hx with hx | hx
    · obtain ⟨d, hd, rfl⟩ := List.mem_map.1 hx
      exact ⟨gradleClasses, by simp [compileLines], d, hd, hc⟩
    · rcases List.mem_pair.1 hx with rfl | rfl <;> exact hc.elim
  | unknown => cases hx

theorem issues_libraryWork {dir libs : Path} (hx : x ∈ libraryWork dir libs system) (hc : x.Issues shop c) :
    ∃ line ∈ libraryLines libs, ∃ d ∈ descriptorsOf system, ∃ rt ∈ shop.runtimes, c = attempt line d rt := by
  cases system with
  | maven poms =>
    rcases List.mem_append.1 hx with hx | hx
    · obtain ⟨d, hd, hx⟩ := List.mem_flatMap.1 hx
      rcases List.mem_pair.1 hx with rfl | rfl
      · exact ⟨mavenInstall, by simp [libraryLines], d, hd, hc⟩
      · exact ⟨mavenCopy libs, by simp [libraryLines], d, hd, hc⟩
    · rw [List.mem_singleton.1 hx] at hc
      exact hc.elim
  | gradle wrappers => cases hx
  | unknown => cases hx

theorem warranted_of_plan {e : ManifestEntry} {before found compiled : FileStore}
    (hx : x ∈ plan shop e before found compiled) (hc : x.Issues shop c) : Warranted shop e before found c := by
  rw [plan, List.mem_ite_nil_left, List.mem_append, fetchWork, List.mem_ite_nil_left, buildWork,
    List.mem_ite_nil_left] at hx
  obtain ⟨htext, ⟨hnew, hx⟩ | ⟨-, hx⟩⟩ := hx
  · rw [Bool.not_eq_true] at hnew
    simp only [List.mem_cons, List.not_mem_nil, or_false] at hx
    rcases hx with rfl | rfl | rfl
    · obtain ⟨text, ht⟩ := Option.ne_none_iff_exists'.1 (fun h => htext (Option.isNone_iff_eq_none.2 h))
      rw [show c = _ from hc, display_of_text ht]
      exact .clone hnew ht
    · rw [show c = _ from hc]
      exact .checkout hnew
    · exact hc.elim
  · rcases List.mem_cons.1 hx with rfl | hx
    · exact hc.elim
    · split at hx
      · cases hx
      · rename_i met hwalk
        rw [stageWork, List.mem_append, List.mem_ite_nil_left, List.mem_ite_nil_left] at hx
        rcases hx with ⟨hbuilt, hx⟩ | ⟨-, hx⟩
        · obtain ⟨line, hline, d, hd, rt, hrt, rfl⟩ := issues_compileWork hx hc
          exact .compile hwalk hd (by simpa using hbuilt) hline hrt
        · obtain ⟨line, hline, d, hd, rt, hrt, rfl⟩ := issues_libraryWork hx hc
          exact .library hwalk hd hline hrt

theorem process_warranted (shop : Workshop) (runner : Runner σ) (e : ManifestEntry) (w : World σ) :
    ∀ i ∈ ((process shop runner e).exec w).2.since w.issued.length,
      Warranted shop e w.files (arrived shop runner e w).files i.command := by
  intro i hi
  obtain ⟨done, rest, log, result, hplan, hfollowed, -⟩ := process_course shop runner e w
  rw [World.since, hfollowed.issued, List.drop_left] at hi
  obtain ⟨x, hx, hc⟩ := hfollowed.issues i hi
  exact warranted_of_plan (hplan ▸ List.mem_append_left rest hx) hc

end Issues

end Benchwork.Build.Repository
