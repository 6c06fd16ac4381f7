/-
Progress is never lost.

A run can be aborted at any point and be started again. Where commands take no paths away, what was there once is there
in all later visits (`Trail`), so no visit repeats what an earlier one has left its mark for: a repository that is there
is not fetched, one that has `.built` is not compiled, and for one that has both markers nothing is issued at all
(`Spared`). Each stage leaves its mark when it completes, and so it completes at most once for each directory.

The empty path is the exception: it never leads anywhere, so a repository without a directory of its own is fetched by
each visit, though both of its markers are found in the current directory.
-/
import Benchwork.Proofs.Build.Idempotence
import Benchwork.Proofs.Build.Markers
import Benchwork.Proofs.Build.Plan
import Benchwork.Proofs.Build.Sharing

namespace Benchwork

/-! ## Paths that stay -/

/-- every path that leads somewhere still does -/
def FileStore.Retains (fs fs' : FileStore) : Prop := ∀ p, fs.pathExists p = true → fs'.pathExists p = true

theorem FileStore.Retains.trans {fs fs' fs'' : FileStore} (h : fs.Retains fs') (h' : fs'.Retains fs'') :
    fs.Retains fs'' :=
  fun p hp => h' p (h p hp)

theorem FileStore.Extends.retains {fs fs' : FileStore} (h : fs.Extends fs') : fs.Retains fs' := fun _ => h.pathExists

namespace Build

open Benchwork.Text Session

variable {σ : Type} {runner : Runner σ}

def Runner.Retains (runner : Runner σ) : Prop :=
  ∀ (c : Command) (memory : σ) (fs : FileStore), fs.Retains { fs with root := (runner.run c memory fs).2.2 }

theorem Runner.Retains.spans (hr : runner.Retains) : Spans runner FileStore.Retains where
  refl := fun _ _ h => h
  trans := .trans
  command := fun w c => hr c w.memory w.files
  edit := fun h => (FileStore.edit_extends h).retains

theorem Runner.Keeps.retains (h : runner.Keeps) : runner.Retains := fun c memory fs => (h c memory fs).pathExists

namespace Repository

variable {shop : Workshop}

/-! ## Commands -/

def IsCheckoutIn (dir : Path) (c : Command) : Prop := ∃ revision, c = checkoutCommand revision dir

/-- a command that compiles, next to whatever descriptor -/
def IsCompile (c : Command) : Prop := ∃ line ∈ compileLines, ∃ d rt, c = attempt line d rt

theorem compileLines_subset (libs : Path) : compileLines ⊆ stepLines libs := by
  simp [compileLines, stepLines]

theorem libraryLines_subset (libs : Path) : libraryLines libs ⊆ stepLines libs := by
  simp [libraryLines, stepLines]

theorem head?_args_mavenCopy (libs : Path) :
    (Command.ofLine (mavenCopy libs)).args.head? = some "dependency:copy-dependencies" := by
  rw [ofLine_mavenCopy]
  rfl

/-- compiling is told from copying libraries by the first argument -/
theorem IsCompile.ne_attempt {libs : Path} {c : Command} (h : IsCompile c) {line : String}
    (hline : line ∈ libraryLines libs) (d : Path) (rt : JavaRuntime) : c ≠ attempt line d rt := by
  obtain ⟨line', hline', d', rt', rfl⟩ := h
  have hcompile : (Command.ofLine line').args.head? ∈ [some "compile", some "gradlew"] := by
    revert line'
    decide +kernel
  have hlibrary : (Command.ofLine line).args.head? ∈ [some "install", some "dependency:copy-dependencies"] := by
    simp only [libraryLines, List.mem_cons, List.not_mem_nil, or_false] at hline
    rcases hline with rfl | rfl
    · decide +kernel
    · rw [head?_args_mavenCopy]
      decide
  intro heq
  have hargs : (Command.ofLine line').args = (Command.ofLine line).args := by
    have hargs := congrArg Command.args heq
    exact hargs
  rw [hargs] at hcompile
  simp only [List.mem_cons, List.not_mem_nil, or_false] at hcompile hlibrary
  rcases hcompile with hc | hc <;> rcases hlibrary with hl | hl <;> rw [hl] at hc <;> revert hc <;> decide

/-! ## What a visit can issue -/

theorem Visit.warranted (shop : Workshop) (runner : Runner σ) (v : Visit σ) : ∀ i ∈ v.log shop runner,
    Warranted shop v.entry v.before.files (arrived shop runner v.entry v.before).files i.command :=
  process_warranted shop runner v.entry v.before

section Warranted

variable {e : ManifestEntry} {before found : FileStore} {c : Command}

/-- nothing is fetched into a directory that is there -/
theorem Warranted.not_fetch (h : Warranted shop e before found c) {dir : Path} (hdir : before.pathExists dir = true) :
    ¬ IsCloneInto dir c ∧ ¬ IsCheckoutIn dir c := by
  have hstep : ∀ {line : String} {d : Path} {rt : JavaRuntime}, (attempt line d rt).program ≠ "git" →
      ¬ IsCloneInto dir (attempt line d rt) ∧ ¬ IsCheckoutIn dir (attempt line d rt) := by
    intro line d rt hgit
    refine ⟨?_, ?_⟩
    · rintro ⟨url, text, -, heq⟩
      exact hgit (by rw [heq]; rfl)
    · rintro ⟨revision, heq⟩
      exact hgit (by rw [heq]; rfl)
  cases h with
  | clone hnew ht =>
    refine ⟨fun hinto => ?_, fun ⟨revision, heq⟩ => cloneCommand_ne_checkoutCommand _ _ _ _ heq⟩
    rw [isCloneInto_cloneCommand ht hinto, hnew] at hdir
    cases hdir
  | checkout hnew =>
    refine ⟨fun ⟨url, text, _, heq⟩ => cloneCommand_ne_checkoutCommand _ _ _ _ heq.symm, fun ⟨revision, heq⟩ => ?_⟩
    have hcwd : some (shop.dirOf e) = some dir := congrArg Command.cwd heq
    rw [← Option.some.inj hcwd, hnew] at hdir
    cases hdir
  | compile _ _ _ hline => exact hstep (program_attempt_ne_git (compileLines_subset dir hline) _ _)
  | library _ _ hline => exact hstep (program_attempt_ne_git (libraryLines_subset _ hline) _ _)

/-- nothing is compiled where the first marker is there -/
theorem Warranted.not_compile (h : Warranted shop e before found c)
    (hbuilt : found.pathExists (inside (shop.dirOf e) builtMarker) = true) : ¬ IsCompile c := by
  have hgit : ∀ {c : Command}, c.program = "git" → ¬ IsCompile c := by
    rintro _ hprogram ⟨line, hline, d, rt, rfl⟩
    exact program_attempt_ne_git (compileLines_subset (shop.dirOf e) hline) d rt hprogram
  cases h with
  | clone => exact hgit rfl
  | checkout => exact hgit rfl
  | compile _ _ hmissing =>
    rw [hmissing] at hbuilt
    cases hbuilt
  | library _ _ hline => exact fun hcompile => hcompile.ne_attempt hline _ _ rfl

end Warranted

/-! ## One visit -/

def Visit.after (shop : Workshop) (runner : Runner σ) (v : Visit σ) : World σ :=
  ((process shop runner v.entry).exec v.before).2

theorem Visit.spans {R : FileStore → FileStore → Prop} (hR : Spans runner R) (v : Visit σ) :
    R v.before.files (v.after shop runner).files :=
  (processes_process (Prod.mk.eta.symm : (process shop runner v.entry).exec v.before = _)).spans hR

theorem arrived_spans {R : FileStore → FileStore → Prop} (hR : Spans runner R) (shop : Workshop) (e : ManifestEntry)
    (w : World σ) :
    R w.files (arrived shop runner e w).files := by
  obtain ⟨r, w', ha⟩ := arrival_arrive shop runner e w
  rw [arrived, ha.exec]
  exact ha.arrives.spans hR

/-- a repository with both markers is passed over -/
theorem Visit.log_eq_nil {v : Visit σ} (hdir : (shop.dirOf v.entry).bytes ≠ [])
    (hdone : isDone (shop.dirOf v.entry) v.before.files = true) : v.log shop runner = [] := by
  have hsame : ((process shop runner v.entry).exec v.before).2 = v.before := by
    cases ht : (shop.dirOf v.entry).text? with
    | none => rw [process_of_notText ht, exec_throw]
    | some text =>
      obtain ⟨hbuilt, hlibs⟩ := Bool.and_eq_true_iff.1 hdone
      rw [(settled_of_markers hdir (by rw [ht]; rfl) hbuilt hlibs).exec_process]
  rw [Visit.log, hsame, World.since, List.drop_length]

/-- what a visit leaves out, going by what was there in the world `u` -/
structure Spared (shop : Workshop) (runner : Runner σ) (u : World σ) (v : Visit σ) : Prop where
  fetch : ∀ dir, u.files.pathExists dir = true →
    ∀ i ∈ v.log shop runner, ¬ IsCloneInto dir i.command ∧ ¬ IsCheckoutIn dir i.command
  compile : u.files.pathExists (inside (shop.dirOf v.entry) builtMarker) = true →
    ∀ i ∈ v.log shop runner, ¬ IsCompile i.command
  all : (shop.dirOf v.entry).bytes ≠ [] → u.files.pathExists (inside (shop.dirOf v.entry) builtMarker) = true →
    u.files.pathExists (inside (shop.dirOf v.entry) libsMarker) = true → v.log shop runner = []

theorem spared_of_retains (hr : runner.Retains) {u : World σ} {v : Visit σ} (h : u.files.Retains v.before.files) :
    Spared shop runner u v where
  fetch := fun dir hdir i hi => (v.warranted shop runner i hi).not_fetch (h dir hdir)
  compile := fun hbuilt i hi =>
    (v.warranted shop runner i hi).not_compile (arrived_spans hr.spans shop v.entry v.before _ (h _ hbuilt))
  all := fun hdir hbuilt hlibs => Visit.log_eq_nil hdir (by rw [isDone, h _ hbuilt, h _ hlibs]; rfl)

/-! ## Stages that complete -/

inductive Stage where
  | fetch
  | compile
  | libraries
  deriving DecidableEq, Repr

/-- what tells that a stage is done -/
def Stage.mark (dir : Path) : Stage → Path
  | .fetch => dir
  | .compile => inside dir builtMarker
  | .libraries => inside dir libsMarker

/-- the visit went through a stage that was not done, and it succeeded -/
inductive Visit.Completes (shop : Workshop) (runner : Runner σ) (v : Visit σ) : Stage → Prop
  | fetch {w₁ : World σ} : v.before.files.pathExists (shop.dirOf v.entry) = false →
      (arrive shop runner v.entry).exec v.before = (.ok (shop.dirOf v.entry), w₁) → Completes shop runner v .fetch
  | compile {w₁ w₂ : World σ} {system : BuildSystem} :
      (arrive shop runner v.entry).exec v.before = (.ok (shop.dirOf v.entry), w₁) →
      w₁.files.pathExists (inside (shop.dirOf v.entry) builtMarker) = false →
      BuildSystem.detect w₁.files (shop.dirOf v.entry) = .ok system →
      (unlessMarked (inside (shop.dirOf v.entry) builtMarker)
        (Repository.compile shop runner system (shop.dirOf v.entry))).exec w₁ = (.ok (), w₂) →
      Completes shop runner v .compile
  | libraries {w₁ w₂ w₃ : World σ} {system : BuildSystem} :
      (arrive shop runner v.entry).exec v.before = (.ok (shop.dirOf v.entry), w₁) →
      isDone (shop.dirOf v.entry) w₁.files = false → BuildSystem.detect w₁.files (shop.dirOf v.entry) = .ok system →
      (unlessMarked (inside (shop.dirOf v.entry) builtMarker)
        (Repository.compile shop runner system (shop.dirOf v.entry))).exec w₁ = (.ok (), w₂) →
      w₂.files.pathExists (inside (shop.dirOf v.entry) libsMarker) = false →
      (unlessMarked (inside (shop.dirOf v.entry) libsMarker)
        (copyLibraries shop runner system (shop.dirOf v.entry))).exec w₂ = (.ok (), w₃) →
      Completes shop runner v .libraries

section Stages

variable {R : FileStore → FileStore → Prop} {dir : Path} {system : BuildSystem} {w w' : World σ}

theorem compile_spans (hR : Spans runner R) {r : Except BuildError Unit}
    (h : (unlessMarked (inside dir builtMarker) (compile shop runner system dir)).exec w = (r, w')) :
    R w.files w'.files := by
  have hruns : Runs runner (IsStep shop dir) (Marks shop dir dir system w.issued.length) _ w _ :=
    unlessMarked_runs ((compile_runs le_rfl).weaken (fun _ h => h) (fun _ _ h => h) fun _ _ h => .inl ⟨rfl, h⟩)
  have hmoves := hruns.moves
  rw [h] at hmoves
  exact hR.moves hmoves

theorem libraries_spans (hR : Spans runner R) {r : Except BuildError Unit}
    (h : (unlessMarked (inside dir libsMarker) (copyLibraries shop runner system dir)).exec w = (r, w')) :
    R w.files w'.files := by
  have hruns : Runs runner (IsStep shop (libraryDir w.files dir)) (Marks shop dir (libraryDir w.files dir) system
      w.issued.length) _ w _ :=
    unlessMarked_runs ((copyLibraries_runs le_rfl rfl).weaken (fun _ h => h) (fun _ _ h => h)
      fun _ _ h => .inr ⟨rfl, h⟩)
  have hmoves := hruns.moves
  rw [h] at hmoves
  exact hR.moves hmoves

theorem finish_spans (hR : Spans runner R) (dir : Path) (w : World σ) :
    R w.files ((finish shop runner dir).exec w).2.files := by
  rw [exec_finish]
  split_ifs
  · exact hR.refl _
  · cases BuildSystem.detect w.files dir with
    | error err => exact hR.refl _
    | ok system => exact hR.moves (stages_moves Prod.mk.eta.symm)

end Stages

/-- a stage that went well, or was done before, has its marker -/
theorem pathExists_of_unlessMarked {marker : Path} {stage : Session σ Unit} {w w' : World σ}
    (h : (unlessMarked marker stage).exec w = (.ok (), w')) : w'.files.pathExists marker = true := by
  rcases exec_unlessMarked_ok h with ⟨hthere, rfl⟩ | ⟨-, w₁, files, -, hf, rfl⟩
  · exact hthere
  · exact FileStore.edit_pathExists hf

/-- a repository that was fetched is there -/
theorem pathExists_of_fetched {e : ManifestEntry} {w w₁ : World σ} (hdir : (shop.dirOf e).bytes ≠ [])
    (hnew : w.files.pathExists (shop.dirOf e) = false)
    (h : (arrive shop runner e).exec w = (.ok (shop.dirOf e), w₁)) : w₁.files.pathExists (shop.dirOf e) = true := by
  obtain ⟨r, w', ha⟩ := arrival_arrive shop runner e w
  obtain ⟨hr, rfl⟩ := Prod.mk.inj (ha.exec.symm.trans h)
  cases ha.arrives with
  | notText => cases hr
  | there _ hthere =>
    rw [hthere] at hnew
    cases hnew
  | fetch _ _ hfetched =>
    cases hfetched with
    | cloneFailed => cases hr
    | checkoutFailed => cases hr
    | ignoreFailed => cases hr
    | done _ _ _ _ hf =>
      exact FileStore.pathExists_of_isDir (isDir_of_inside hdir (by decide +kernel) (FileStore.edit_pathExists hf))

section Completes

variable {v : Visit σ} {w₁ w₂ : World σ} {system : BuildSystem}

theorem Visit.after_of_arrive (h : (arrive shop runner v.entry).exec v.before = (.ok (shop.dirOf v.entry), w₁)) :
    v.after shop runner = ((finish shop runner (shop.dirOf v.entry)).exec w₁).2 := by
  rw [Visit.after, process, exec_bind_ok h]

theorem Visit.after_of_compile (h : (arrive shop runner v.entry).exec v.before = (.ok (shop.dirOf v.entry), w₁))
    (hdone : isDone (shop.dirOf v.entry) w₁.files = false)
    (hdetect : BuildSystem.detect w₁.files (shop.dirOf v.entry) = .ok system)
    (hcompile : (unlessMarked (inside (shop.dirOf v.entry) builtMarker)
      (compile shop runner system (shop.dirOf v.entry))).exec w₁ = (.ok (), w₂)) :
    v.after shop runner = ((unlessMarked (inside (shop.dirOf v.entry) libsMarker)
      (copyLibraries shop runner system (shop.dirOf v.entry))).exec w₂).2 := by
  rw [isDone] at hdone
  rw [Visit.after_of_arrive h, exec_finish, hdone, hdetect, if_neg (by simp)]
  dsimp only
  rw [stages, exec_bind_ok hcompile, exec_bind]
  rcases (unlessMarked (inside (shop.dirOf v.entry) libsMarker)
    (copyLibraries shop runner system (shop.dirOf v.entry))).exec w₂ with ⟨err | u, w₃⟩ <;> rfl

theorem isDone_eq_false {dir : Path} {fs : FileStore} (h : fs.pathExists (inside dir builtMarker) = false) :
    isDone dir fs = false := by
  rw [isDone, h, Bool.false_and]

theorem Visit.Completes.mark_missing (hr : runner.Retains) {stage : Stage} (h : v.Completes shop runner stage) :
    v.before.files.pathExists (stage.mark (shop.dirOf v.entry)) = false := by
  have hmissing : ∀ {fs : FileStore} {p : Path}, v.before.files.Retains fs → fs.pathExists p = false →
      v.before.files.pathExists p = false := by
    intro fs p hkeep hp
    by_contra hne
    rw [hkeep p (by simpa using hne)] at hp
    cases hp
  have harrive : ∀ {w₁ : World σ}, (arrive shop runner v.entry).exec v.before = (.ok (shop.dirOf v.entry), w₁) →
      v.before.files.Retains w₁.files := by
    intro w₁ h
    have hspans := arrived_spans hr.spans shop v.entry v.before
    rwa [arrived, h] at hspans
  cases h with
  | fetch hnew => exact hnew
  | compile h hbuilt => exact hmissing (harrive h) hbuilt
  | libraries h _ _ hcompile hlibs => exact hmissing ((harrive h).trans (compile_spans hr.spans hcompile)) hlibs

theorem Visit.Completes.mark_made (hr : runner.Retains) (hdir : (shop.dirOf v.entry).bytes ≠ []) {stage : Stage}
    (h : v.Completes shop runner stage) :
    (v.after shop runner).files.pathExists (stage.mark (shop.dirOf v.entry)) = true := by
  cases h with
  | @fetch w₁ hnew h =>
    rw [Visit.after_of_arrive h]
    refine finish_spans hr.spans _ w₁ _ ?_
    exact pathExists_of_fetched hdir hnew h
  | @compile w₁ w₂ system h hbuilt hdetect hcompile =>
    rw [Visit.after_of_compile h (isDone_eq_false hbuilt) hdetect hcompile]
    refine libraries_spans hr.spans Prod.mk.eta.symm _ ?_
    exact pathExists_of_unlessMarked hcompile
  | @libraries w₁ w₂ w₃ system h hdone hdetect hcompile hlibs hcopy =>
    rw [Visit.after_of_compile h hdone hdetect hcompile, hcopy]
    exact pathExists_of_unlessMarked hcopy

end Completes

/-! ## Any number of visits -/

/-- visits one after another, from the files `fs` to the files `fs'`, with no path removed on the way -/
inductive Trail (shop : Workshop) (runner : Runner σ) : FileStore → List (Visit σ) → FileStore → Prop
  | nil {fs fs' : FileStore} : fs.Retains fs' → Trail shop runner fs [] fs'
  | cons {fs fs' : FileStore} {v : Visit σ} {vs : List (Visit σ)} : fs.Retains v.before.files →
      Trail shop runner (v.after shop runner).files vs fs' → Trail shop runner fs (v :: vs) fs'

section Trail

variable {fs fs' fs'' : FileStore} {vs vs' : List (Visit σ)}

theorem Trail.of_retains (h : fs.Retains fs') (ht : Trail shop runner fs' vs fs'') : Trail shop runner fs vs fs'' := by
  cases ht with
  | nil h' => exact .nil (h.trans h')
  | cons hv ht => exact .cons (h.trans hv) ht

theorem Trail.append (h : Trail shop runner fs vs fs') (h' : Trail shop runner fs' vs' fs'') :
    Trail shop runner fs (vs ++ vs') fs'' := by
  induction h with
  | nil h => exact .of_retains h h'
  | cons hv _ ih => exact .cons hv (ih h')

theorem Trail.retains (hr : runner.Retains) (h : Trail shop runner fs vs fs') : fs.Retains fs' := by
  induction h with
  | nil h => exact h
  | @cons _ _ v _ hv _ ih => exact (hv.trans (v.spans hr.spans)).trans ih

/-- the worlds up to a visit, when the visits `earlier` have been made from the world `w` on -/
def worldsUpTo (shop : Workshop) (runner : Runner σ) (w : World σ) (earlier : List (Visit σ)) (v : Visit σ) :
    List (World σ) :=
  w :: earlier.flatMap (fun v' => [v'.before, v'.after shop runner]) ++ [v.before]

/-- what was there before a visit is there in it and from then on -/
theorem Trail.at_visit (hr : runner.Retains) {w : World σ} {earlier later : List (Visit σ)} {v : Visit σ}
    (h : Trail shop runner w.files (earlier ++ v :: later) fs') :
    (∀ u ∈ worldsUpTo shop runner w earlier v, u.files.Retains v.before.files) ∧
      (v.after shop runner).files.Retains fs' := by
  induction earlier generalizing w with
  | nil =>
    cases h with
    | cons hv ht =>
      refine ⟨fun u hu => ?_, ht.retains hr⟩
      simp only [worldsUpTo, List.flatMap_nil, List.cons_append, List.nil_append, List.mem_cons, List.not_mem_nil,
        or_false] at hu
      rcases hu with rfl | rfl
      · exact hv
      · exact fun _ h => h
  | cons v' earlier ih =>
    cases h with
    | cons hv ht =>
      obtain ⟨hbefore, hafter⟩ := ih ht
      have hstart : (v'.after shop runner).files.Retains v.before.files := hbefore _ List.mem_cons_self
      refine ⟨fun u hu => ?_, hafter⟩
      simp only [worldsUpTo, List.flatMap_cons, List.cons_append, List.nil_append, List.mem_cons] at hu
      rcases hu with rfl | rfl | rfl | hu
      · exact (hv.trans (v'.spans hr.spans)).trans hstart
      · exact (v'.spans hr.spans : v'.before.files.Retains _).trans hstart
      · exact hstart
      · exact hbefore u (List.mem_cons_of_mem _ hu)

theorem Trail.pairwise (hr : runner.Retains) (h : Trail shop runner fs vs fs') :
    vs.Pairwise fun v v' => (v.after shop runner).files.Retains v'.before.files := by
  induction h with
  | nil => exact .nil
  | @cons _ _ v vs hv ht ih =>
    refine .cons (fun v' hv' => ?_) ih
    obtain ⟨earlier, later, rfl⟩ := List.append_of_mem hv'
    exact (Trail.at_visit hr ht).1 _ List.mem_cons_self

end Trail

theorem trail_visitsInOrder (es : List ManifestEntry) (w : World σ) :
    Trail shop runner w.files (visitsInOrder shop runner es w) ((processAll shop runner es).exec w).2.files := by
  induction es generalizing w with
  | nil => exact .nil fun _ h => h
  | cons e es ih =>
    refine .cons (fun _ h => h) ?_
    rw [processAll, exec_bind, Visit.after]
    rcases hexec : (process shop runner e).exec w with ⟨err | o, w'⟩
    · exact .nil fun _ h => h
    · exact ih w'

theorem trail_visits (c : Call) (w : World σ) :
    Trail shop runner w.files (c.visits shop runner w) (c.after shop runner w).files := by
  cases c with
  | process e => exact .cons (fun _ h => h) (.nil fun _ h => h)
  | run es =>
    have hmade := (FileStore.makes_makeDirs w.files shop.reposDir).extends.retains
    rw [Call.visits, Call.after, run, exec_bind, exec_makeDirs]
    rcases hfiles : w.files.makeDirs shop.reposDir with ⟨err | u, files⟩
    · rw [hfiles] at hmade
      exact .nil hmade
    · rw [hfiles] at hmade
      exact .of_retains hmade (trail_visitsInOrder es { w with files })

theorem trail_visitsOf (calls : List Call) (w : World σ) :
    Trail shop runner w.files (visitsOf shop runner calls w) (afterAll shop runner calls w).files := by
  induction calls generalizing w with
  | nil => exact .nil fun _ h => h
  | cons c calls ih => exact (trail_visits c w).append (ih (c.after shop runner w))

/-- **Progress is never lost**, whatever commands answer and however often runs fail and are started again, as long as no
command removes a path. No call removes a path. For every visit and every world up to it: a directory that was there is
not fetched into, a repository that had `.built` is not compiled, and for one that had both markers, in a directory of
its own, nothing is issued; what was there then is there in the visit, after it and in the end. Each stage completes in
at most one visit of a directory. -/
theorem progress_kept (shop : Workshop) (runner : Runner σ) (hr : runner.Retains) (calls : List Call) (w : World σ) :
    w.files.Retains (afterAll shop runner calls w).files ∧
    (∀ earlier v later, visitsOf shop runner calls w = earlier ++ v :: later →
      ∀ u ∈ worldsUpTo shop runner w earlier v, Spared shop runner u v ∧ u.files.Retains v.before.files ∧
        u.files.Retains (v.after shop runner).files ∧ u.files.Retains (afterAll shop runner calls w).files) ∧
    (visitsOf shop runner calls w).Pairwise fun v v' => shop.dirOf v'.entry = shop.dirOf v.entry →
      (shop.dirOf v.entry).bytes ≠ [] →
        ∀ stage, v.Completes shop runner stage → ¬ v'.Completes shop runner stage := by
  have htrail : Trail shop runner w.files _ _ := trail_visitsOf calls w
  refine ⟨htrail.retains hr, fun earlier v later hsplit u hu => ?_, (htrail.pairwise hr).imp ?_⟩
  · rw [hsplit] at htrail
    obtain ⟨hbefore, hend⟩ := htrail.at_visit hr
    have hvisit : v.before.files.Retains (v.after shop runner).files := v.spans hr.spans
    have hu' := hbefore u hu
    exact ⟨spared_of_retains hr hu', hu', hu'.trans hvisit, (hu'.trans hvisit).trans hend⟩
  · intro v v' hkeep hsame hdir stage hv hv'
    have hmade := hkeep _ (hv.mark_made hr hdir)
    rw [← hsame, hv'.mark_missing hr] at hmade
    cases hmade

/-- a call that fails to compile, one that takes it up from there, and one for which nothing is left -/
theorem progress_kept_resumed :
    let entry : ManifestEntry := ⟨"https://example.com/foo.git", "v1"⟩
    let runner := Scripted.runner [.ok, .ok, .fail (some 1)]
      [("https://example.com/foo.git", [.file (Path.ofString "pom.xml") [] false])]
    let first : Visit Nat := ⟨entry, ⟨⟨.empty, []⟩, 0, []⟩⟩
    let second : Visit Nat := ⟨entry, first.after reposShop runner⟩
    let third : Visit Nat := ⟨entry, second.after reposShop runner⟩
    (first.log reposShop runner).length = 3 ∧ (second.log reposShop runner).length = 3 ∧
      Spared reposShop runner second.before second ∧ third.log reposShop runner = [] := by
  intro entry runner first second third
  have hcount : (first.log reposShop runner).length = 3 ∧ (second.log reposShop runner).length = 3 := by decide +kernel
  have hdone : (reposShop.dirOf entry).bytes ≠ [] ∧
      third.before.files.pathExists (inside (reposShop.dirOf entry) builtMarker) = true ∧
      third.before.files.pathExists (inside (reposShop.dirOf entry) libsMarker) = true := by
    decide +kernel
  obtain ⟨-, hvisits, -⟩ := progress_kept reposShop runner (Scripted.runner_keeps _ _).retains
    [.process entry, .process entry, .process entry] first.before
  have hspared := hvisits [first] second [third] rfl second.before (by simp [worldsUpTo])
  have hspared' := hvisits [first, second] third [] rfl third.before (by simp [worldsUpTo])
  exact ⟨hcount.1, hcount.2, hspared.1, hspared'.1.all hdone.1 hdone.2.1 hdone.2.2⟩

/-- **A repository without a directory of its own is fetched by each call**, though both of its markers are there. -/
theorem nameless_fetched_each_call :
    let shop : Workshop := ⟨⟨[]⟩, []⟩
    let entry : ManifestEntry := ⟨"https://example.com/.git", "v1"⟩
    let runner := Scripted.runner [] []
    let marker : Node := .file [] false
    let files : FileStore := ⟨.dir [(Utf8.encode builtMarker, marker), (Utf8.encode libsMarker, marker)], []⟩
    let first : Visit Nat := ⟨entry, ⟨files, 0, []⟩⟩
    let second : Visit Nat := ⟨entry, first.after shop runner⟩
    runner.Retains ∧ visitsOf shop runner [.process entry, .process entry] first.before = [first, second] ∧
      isDone (shop.dirOf entry) first.before.files = true ∧ isDone (shop.dirOf entry) second.before.files = true ∧
      (second.log shop runner).map (·.command) = [cloneCommand entry.url "", checkoutCommand entry.revision ⟨[]⟩] := by
  intro shop entry runner marker files first second
  refine ⟨(Scripted.runner_keeps [] []).retains, rfl, ?_⟩
  decide +kernel

end Repository

end Build

end Benchwork
