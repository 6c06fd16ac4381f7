/-
Sessions that never fail for want of runtimes.

A build step without runtimes fails for want of them before it issues anything. With a runtime at hand it ends as one of
its attempts does (`supplied_tryRuntimes`), and nothing else in a run asks for runtimes. So if no answer of the runner is
that there are none, a run with runtimes never fails for that reason (`supplied_run`).
-/
import Benchwork.Proofs.Build.Closest
import Benchwork.Proofs.Build.Stages

namespace Benchwork.Build

variable {σ α β : Type}

/-! ## Putting sessions together -/

/-- no answer of the runner is that there are no runtimes -/
def Runner.Plain (runner : Runner σ) : Prop := ∀ c memory files, (runner.run c memory files).1 ≠ .error .noRuntimes

namespace Session

/-- the session never fails for want of runtimes -/
def Supplied (x : Session σ α) : Prop := ∀ w, (x.exec w).1 ≠ .error .noRuntimes

variable {runner : Runner σ}

theorem Supplied.pure (a : α) : (pure a : Session σ α).Supplied := fun _ h => by cases h

theorem Supplied.throw {e : BuildError} (he : e ≠ .noRuntimes) : (throw e : Session σ α).Supplied := fun _ h =>
  he (Except.error.inj h)

theorem Supplied.bind {x : Session σ α} {f : α → Session σ β} (hx : x.Supplied) (hf : ∀ a, (f a).Supplied) :
    (x >>= f).Supplied := by
  intro w
  have hfirst := hx w
  rcases hexec : x.exec w with ⟨e | a, w'⟩
  · rw [exec_bind_error hexec]
    rw [hexec] at hfirst
    exact fun h => hfirst (congrArg Except.error (Except.error.inj h))
  · rw [exec_bind_ok hexec]
    exact hf a w'

theorem supplied_get : (get : Session σ (World σ)).Supplied := fun _ h => by cases h

theorem supplied_ask (f : FileStore → α) : (ask f : Session σ α).Supplied := fun _ h => by cases h

theorem supplied_ofExcept {r : Except BuildError α} (h : r ≠ .error .noRuntimes) :
    (MonadExcept.ofExcept r : Session σ α).Supplied := fun w => by
  rw [exec_ofExcept]
  exact h

theorem supplied_change (p : Path) (f : FileStore → Except Fault FileStore) : (change p f : Session σ Unit).Supplied := by
  intro w
  rw [exec_change]
  cases f w.files with
  | ok files => simp
  | error e => simp

theorem supplied_makeDirs (p : Path) : (makeDirs p : Session σ Unit).Supplied := by
  intro w
  rw [exec_makeDirs]
  rcases w.files.makeDirs p with ⟨e | u, files⟩
  · simp
  · simp

theorem Supplied.forM {γ : Type} {l : List γ} {f : γ → Session σ Unit} (hf : ∀ d, (f d).Supplied) :
    (l.forM f).Supplied := by
  induction l with
  | nil => exact .pure ()
  | cons d l ih => exact (hf d).bind fun _ => ih

theorem supplied_issue (hrunner : runner.Plain) (c : Command) : (issue runner c).Supplied := by
  intro w
  rw [exec_issue]
  exact hrunner c w.memory w.files

/-- with a runtime left, or another failure to report, attempts end in another way -/
theorem supplied_tryRuntimes (hrunner : runner.Plain) (c : Command) {last : BuildError} {rts : List JavaRuntime}
    (h : rts = [] → last ≠ .noRuntimes) : (tryRuntimes runner c last rts).Supplied := by
  induction rts generalizing last with
  | nil => exact .throw (h rfl)
  | cons r rest ih =>
    intro w
    rw [exec_tryRuntimes_cons]
    have hanswer := hrunner (c.withEnv "JAVA_HOME" r.home) w.memory w.files
    cases ha : w.answer runner (c.withEnv "JAVA_HOME" r.home) with
    | ok u => simp
    | error e =>
      have he : e ≠ .noRuntimes := fun he => hanswer (he ▸ ha)
      dsimp only
      split_ifs
      · exact ih (fun _ => he) _
      · exact fun h => he (Except.error.inj h)

end Session

/-! ## Runs -/

namespace Repository

open Session

theorem detect_ne_noRuntimes (fs : FileStore) (dir : Path) : BuildSystem.detect fs dir ≠ .error .noRuntimes := by
  rw [detect_eq_map, Descriptor.walk]
  cases Descriptor.scene fs dir with
  | error f => simp [Except.map]
  | ok met =>
    dsimp only
    cases met.find? (Descriptor.isOutOfReach dir) with
    | none => simp [Except.map]
    | some m => simp [Except.map]

/-- without runtimes a build step fails for want of them, and nothing is issued -/
theorem exec_buildStep_of_nil {shop : Workshop} (hshop : shop.runtimes = []) (runner : Runner σ) (line : String)
    (d : Path) (w : World σ) : (buildStep shop runner line d).exec w = (.error .noRuntimes, w) := by
  rw [buildStep, underRuntimes, hshop]
  rfl

section Supplied

variable {shop : Workshop} {runner : Runner σ} (hrunner : runner.Plain) (hshop : shop.runtimes ≠ [])

include hrunner hshop

theorem supplied_buildStep (line : String) (d : Path) : (buildStep shop runner line d).Supplied :=
  (supplied_tryRuntimes hrunner _ fun h => absurd h hshop).bind fun _ => .pure ()

theorem supplied_compile (system : BuildSystem) (dir : Path) : (compile shop runner system dir).Supplied := by
  cases system with
  | maven poms => exact .forM (supplied_buildStep hrunner hshop _)
  | gradle wrappers => exact (Supplied.forM (supplied_buildStep hrunner hshop _)).bind fun _ => supplied_change _ _
  | unknown => exact supplied_get.bind fun w => .throw (by simp [unknownSystem])

theorem supplied_copyLibraries (system : BuildSystem) (dir : Path) : (copyLibraries shop runner system dir).Supplied := by
  cases system with
  | maven poms =>
    refine supplied_get.bind fun w => .forM fun pom => ?_
    exact (supplied_buildStep hrunner hshop _ pom).bind fun _ => supplied_buildStep hrunner hshop _ pom
  | gradle wrappers => exact .throw (by simp)
  | unknown => exact supplied_get.bind fun w => .throw (by simp [unknownSystem])

omit hrunner hshop in
theorem supplied_unlessMarked {marker : Path} {stage : Session σ Unit} (h : stage.Supplied) :
    (unlessMarked marker stage).Supplied := by
  refine (supplied_ask _).bind fun there => ?_
  cases there with
  | true => exact .pure ()
  | false => exact h.bind fun _ => supplied_change _ _

theorem supplied_finish (dir : Path) : (finish shop runner dir).Supplied := by
  refine (supplied_ask _).bind fun built => (supplied_ask _).bind fun copied => ?_
  split_ifs
  · exact .pure _
  · refine supplied_get.bind fun w => (supplied_ofExcept (detect_ne_noRuntimes w.files dir)).bind fun system => ?_
    refine (supplied_unlessMarked (supplied_compile hrunner hshop system dir)).bind fun _ => ?_
    exact (supplied_unlessMarked (supplied_copyLibraries hrunner hshop system dir)).bind fun _ => .pure _

omit hshop in
theorem supplied_arrive (e : ManifestEntry) : (arrive shop runner e).Supplied := by
  rw [arrive]
  generalize shop.dirOf e = dir
  cases dir.text? with
  | none => exact .throw (by simp)
  | some text =>
    refine (supplied_ask _).bind fun there => ?_
    cases there with
    | true => exact .pure _
    | false =>
      refine Supplied.bind ?_ fun _ => .pure _
      exact (supplied_issue hrunner _).bind fun _ => (supplied_issue hrunner _).bind fun _ => supplied_change _ _

theorem supplied_processAll (entries : List ManifestEntry) : (processAll shop runner entries).Supplied := by
  induction entries with
  | nil => exact .pure ()
  | cons e rest ih =>
    exact ((supplied_arrive hrunner e).bind fun dir => supplied_finish hrunner hshop dir).bind fun _ => ih

/-- a run with runtimes never fails for want of them -/
theorem supplied_run (entries : List ManifestEntry) : (run shop runner entries).Supplied :=
  (supplied_makeDirs _).bind fun _ => supplied_processAll hrunner hshop entries

end Supplied

end Repository

end Benchwork.Build
