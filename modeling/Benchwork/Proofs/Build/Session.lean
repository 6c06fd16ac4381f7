/-
Sessions, step by step.

`exec` runs a session on a world and gives its result with the world it leaves. A world is moved by commands and by files
that are made sure of, and by nothing else: `Moves` is that relation, for a set of commands and a set of files, where the
files that may be made can depend on the world. `Runs` says of a session that it moves along and that its result, if it
has one, is as it should be; it has one rule for each way to put sessions together (`Runs.bind`, `Runs.forM`,
`tryRuntimes_runs`). The commands issued on the way stay on record (`Moves.issued`).
-/
import Benchwork.Build.Runner
import Benchwork.Proofs.Files.Change

namespace Benchwork.Build

variable {σ α β : Type}

namespace World

def answer (w : World σ) (runner : Runner σ) (c : Command) : Except BuildError Unit := (runner.run c w.memory w.files).1

def after (w : World σ) (runner : Runner σ) (c : Command) : World σ where
  files := { w.files with root := (runner.run c w.memory w.files).2.2 }
  memory := (runner.run c w.memory w.files).2.1
  issued := w.issued ++ [⟨c, w.answer runner c⟩]

def since (w : World σ) (n : Nat) : List Issued := w.issued.drop n

@[simp]
theorem issued_after (w : World σ) (runner : Runner σ) (c : Command) :
    (w.after runner c).issued = w.issued ++ [⟨c, w.answer runner c⟩] := rfl

end World

namespace Session

/-! ## Running a session -/

/-- the result of a session and the world it leaves -/
def exec (x : Session σ α) (w : World σ) : Except BuildError α × World σ := x.run w

@[simp]
theorem exec_pure (a : α) (w : World σ) : (pure a : Session σ α).exec w = (.ok a, w) := rfl

@[simp]
theorem exec_throw (e : BuildError) (w : World σ) : (throw e : Session σ α).exec w = (.error e, w) := rfl

@[simp]
theorem exec_get (w : World σ) : (get : Session σ (World σ)).exec w = (.ok w, w) := rfl

theorem exec_bind (x : Session σ α) (f : α → Session σ β) (w : World σ) :
    (x >>= f).exec w =
      match x.exec w with
      | (.ok a, w') => (f a).exec w'
      | (.error e, w') => (.error e, w') := by
  have h : (x >>= f).exec w = (ExceptT.bindCont f (x.exec w).1 : StateM (World σ) _) (x.exec w).2 := rfl
  rw [h]
  rcases x.exec w with ⟨r | r, w'⟩ <;> rfl

theorem exec_bind_ok {x : Session σ α} {f : α → Session σ β} {w w' : World σ} {a : α} (h : x.exec w = (.ok a, w')) :
    (x >>= f).exec w = (f a).exec w' := by
  rw [exec_bind, h]

theorem exec_bind_error {x : Session σ α} {f : α → Session σ β} {w w' : World σ} {e : BuildError}
    (h : x.exec w = (.error e, w')) : (x >>= f).exec w = (.error e, w') := by
  rw [exec_bind, h]

theorem exec_bind_eq_ok {x : Session σ α} {f : α → Session σ β} {w w' : World σ} {b : β}
    (h : (x >>= f).exec w = (.ok b, w')) : ∃ a w₁, x.exec w = (.ok a, w₁) ∧ (f a).exec w₁ = (.ok b, w') := by
  rcases he : x.exec w with ⟨err | a, w₁⟩
  · rw [exec_bind_error he] at h
    cases h
  · rw [exec_bind_ok he] at h
    exact ⟨a, w₁, rfl, h⟩

@[simp]
theorem exec_ask (f : FileStore → α) (w : World σ) : (ask f : Session σ α).exec w = (.ok (f w.files), w) := rfl

theorem exec_change (p : Path) (f : FileStore → Except Fault FileStore) (w : World σ) :
    (change p f).exec w =
      match f w.files with
      | .ok files => (.ok (), { w with files })
      | .error e => (.error (.file p (.fault e)), w) := by
  rw [change, exec_bind_ok (exec_get w)]
  cases f w.files <;> rfl

theorem exec_change_eq_ok {p : Path} {f : FileStore → Except Fault FileStore} {w w' : World σ}
    (h : (change p f).exec w = (.ok (), w')) : ∃ files, f w.files = .ok files ∧ w' = { w with files } := by
  rw [exec_change] at h
  split at h
  · rename_i files hf
    exact ⟨files, hf, (Prod.mk.inj h).2.symm⟩
  · cases h

theorem exec_makeDirs (p : Path) (w : World σ) :
    (makeDirs p).exec w =
      match w.files.makeDirs p with
      | (.ok (), files) => (.ok (), { w with files })
      | (.error e, files) => (.error (.file p (.fault e)), { w with files }) := by
  rw [makeDirs, exec_bind_ok (exec_get w)]
  rcases w.files.makeDirs p with ⟨r | r, files⟩ <;> rfl

theorem exec_issue (runner : Runner σ) (c : Command) (w : World σ) :
    (issue runner c).exec w = (w.answer runner c, w.after runner c) := by
  rw [issue, exec_bind_ok (exec_get w), World.after, World.answer]
  rcases runner.run c w.memory w.files with ⟨r | r, memory, root⟩ <;> rfl

theorem exec_ofExcept (r : Except BuildError α) (w : World σ) :
    (MonadExcept.ofExcept r : Session σ α).exec w = (r, w) := by
  cases r <;> rfl

theorem exec_tryCatch (x : Session σ α) (handle : BuildError → Session σ α) (w : World σ) :
    (tryCatch x handle).exec w =
      match x.exec w with
      | (.ok a, w') => (.ok a, w')
      | (.error e, w') => (handle e).exec w' := by
  simp only [exec, tryCatch, tryCatchThe, MonadExceptOf.tryCatch, ExceptT.tryCatch, ExceptT.run, ExceptT.mk, bind,
    StateT.bind]
  rcases (x w : Except BuildError α × World σ) with ⟨r | r, w'⟩ <;> rfl

/-- one attempt, and what comes after it -/
theorem exec_tryRuntimes_cons (runner : Runner σ) (c : Command) (last : BuildError) (r : JavaRuntime)
    (rest : List JavaRuntime) (w : World σ) :
    (tryRuntimes runner c last (r :: rest)).exec w =
      match w.answer runner (c.withEnv "JAVA_HOME" r.home) with
      | .ok () => (.ok r, w.after runner (c.withEnv "JAVA_HOME" r.home))
      | .error e =>
        if e.isCommandFailed then (tryRuntimes runner c e rest).exec (w.after runner (c.withEnv "JAVA_HOME" r.home))
        else (.error e, w.after runner (c.withEnv "JAVA_HOME" r.home)) := by
  rw [tryRuntimes, exec_tryCatch, exec_bind, exec_issue]
  cases w.answer runner (c.withEnv "JAVA_HOME" r.home) with
  | ok _ => rfl
  | error e =>
    dsimp only
    split_ifs <;> rfl

/-! ## Moves of the world -/

/-- the world is moved by commands of `C` and by making sure of files of `F` -/
inductive Moves (runner : Runner σ) (C : Command → Prop) (F : World σ → Path → Prop) : World σ → World σ → Prop
  | refl (w : World σ) : Moves runner C F w w
  | issue {w w' : World σ} {c : Command} : Moves runner C F w w' → C c → Moves runner C F w (w'.after runner c)
  | touch {w w' : World σ} {p : Path} {files : FileStore} : Moves runner C F w w' → F w' p →
      w'.files.touch p = .ok files → Moves runner C F w { w' with files }

variable {runner : Runner σ} {C : Command → Prop} {F : World σ → Path → Prop}

theorem Moves.trans {w w' w'' : World σ} (h : Moves runner C F w w') (h' : Moves runner C F w' w'') :
    Moves runner C F w w'' := by
  induction h' with
  | refl => exact h
  | issue _ hc ih => exact ih.issue hc
  | touch _ hp hf ih => exact ih.touch hp hf

theorem Moves.weaken {C' : Command → Prop} {F' : World σ → Path → Prop} (hC : ∀ c, C c → C' c)
    (hF : ∀ w p, F w p → F' w p) {w w' : World σ} (h : Moves runner C F w w') : Moves runner C' F' w w' := by
  induction h with
  | refl => exact .refl w
  | issue _ hc ih => exact ih.issue (hC _ hc)
  | touch _ hp hf ih => exact ih.touch (hF _ _ hp) hf

/-- commands stay on record, and those that are added belong to `C` -/
theorem Moves.issued {w w' : World σ} (h : Moves runner C F w w') :
    ∃ new, w'.issued = w.issued ++ new ∧ ∀ i ∈ new, C i.command := by
  induction h with
  | refl => exact ⟨[], by simp, by simp⟩
  | @issue w' c _ hc ih =>
    obtain ⟨new, hnew, hall⟩ := ih
    refine ⟨new ++ [⟨c, w'.answer runner c⟩], by rw [World.issued_after, hnew, List.append_assoc], ?_⟩
    intro i hi
    rcases List.mem_append.1 hi with hi | hi
    · exact hall i hi
    · rw [List.mem_singleton.1 hi]
      exact hc
  | touch _ _ _ ih => exact ih

theorem Moves.mem_since {w w' : World σ} (h : Moves runner C F w w') {n : Nat} {i : Issued} (hi : i ∈ w.since n) :
    i ∈ w'.since n := by
  obtain ⟨new, hnew, -⟩ := h.issued
  rw [World.since, hnew, List.drop_append]
  exact List.mem_append_left _ hi

theorem Moves.cwd {w w' : World σ} (h : Moves runner C F w w') : w'.files.cwd = w.files.cwd := by
  induction h with
  | refl => rfl
  | issue _ _ ih => exact ih
  | touch _ _ hf ih => exact (FileStore.edit_extends hf).cwd.trans ih

/-- a relation that spans all that is ever done to files: running commands, and writing files -/
structure Spans (runner : Runner σ) (R : FileStore → FileStore → Prop) : Prop where
  refl : ∀ fs, R fs fs
  trans : ∀ {fs fs' fs'' : FileStore}, R fs fs' → R fs' fs'' → R fs fs''
  command : ∀ (w : World σ) (c : Command), R w.files (w.after runner c).files
  edit : ∀ {fs fs' : FileStore} {p : Path} {change : List UInt8 → List UInt8}, fs.edit p change = .ok fs' → R fs fs'

theorem Spans.moves {R : FileStore → FileStore → Prop} (hR : Spans runner R) {w w' : World σ}
    (h : Moves runner C F w w') : R w.files w'.files := by
  induction h with
  | refl => exact hR.refl _
  | issue _ _ ih => exact hR.trans ih (hR.command _ _)
  | touch _ _ hf ih => exact hR.trans ih (hR.edit hf)

/-! ## What a session does -/

/-- the session moves the world along, and its result is as it should be -/
structure Runs (runner : Runner σ) (C : Command → Prop) (F : World σ → Path → Prop) (x : Session σ α) (w : World σ)
    (Q : α → World σ → Prop) : Prop where
  moves : Moves runner C F w (x.exec w).2
  result : ∀ a, (x.exec w).1 = .ok a → Q a (x.exec w).2

theorem Runs.weaken {C' : Command → Prop} {F' : World σ → Path → Prop} {x : Session σ α} {w : World σ}
    {Q Q' : α → World σ → Prop} (hC : ∀ c, C c → C' c) (hF : ∀ w p, F w p → F' w p) (hQ : ∀ a w', Q a w' → Q' a w')
    (h : Runs runner C F x w Q) : Runs runner C' F' x w Q' :=
  ⟨h.moves.weaken hC hF, fun a ha => hQ a _ (h.result a ha)⟩

theorem Runs.throw {e : BuildError} {w : World σ} {Q : α → World σ → Prop} :
    Runs runner C F (MonadExcept.throw e : Session σ α) w Q :=
  ⟨.refl w, fun _ h => by cases h⟩

theorem Runs.bind {x : Session σ α} {f : α → Session σ β} {w : World σ} {Q : α → World σ → Prop}
    {R : β → World σ → Prop} (hx : Runs runner C F x w Q)
    (hf : ∀ a w', Moves runner C F w w' → Q a w' → Runs runner C F (f a) w' R) : Runs runner C F (x >>= f) w R := by
  have hm := hx.moves
  have hr := hx.result
  rcases he : x.exec w with ⟨r | a, w'⟩
  · rw [he] at hm
    exact ⟨by rw [exec_bind_error he]; exact hm, fun b hb => by rw [exec_bind_error he] at hb; cases hb⟩
  · rw [he] at hm hr
    have hfa := hf a w' hm (hr a rfl)
    exact ⟨by rw [exec_bind_ok he]; exact hm.trans hfa.moves,
      fun b hb => by rw [exec_bind_ok he] at hb ⊢; exact hfa.result b hb⟩

/-- a question does not move the world -/
theorem Runs.bind_read {x : Session σ α} {f : α → Session σ β} {w : World σ} {a : α} {R : β → World σ → Prop}
    (hx : x.exec w = (.ok a, w)) (hf : Runs runner C F (f a) w R) : Runs runner C F (x >>= f) w R :=
  ⟨by rw [exec_bind_ok hx]; exact hf.moves, fun b hb => by rw [exec_bind_ok hx] at hb ⊢; exact hf.result b hb⟩

theorem Runs.touch {p : Path} {w : World σ} (h : F w p) :
    Runs runner C F (change p (·.touch p)) w fun _ w' => w'.files.pathExists p = true := by
  cases hf : w.files.touch p with
  | error e =>
    have he : (change p (·.touch p)).exec w = (.error (.file p (.fault e)), w) := by rw [exec_change, hf]
    exact ⟨by rw [he]; exact .refl w, fun _ ha => by rw [he] at ha; cases ha⟩
  | ok files =>
    have he : (change p (·.touch p)).exec w = (.ok (), { w with files }) := by rw [exec_change, hf]
    exact ⟨by rw [he]; exact .touch (.refl w) h hf, fun _ _ => by rw [he]; exact FileStore.edit_pathExists hf⟩

/-- what holds after each element, and is not lost on the way, holds for all in the end -/
theorem Runs.forM {γ : Type} {l : List γ} {f : γ → Session σ Unit} {w : World σ} {P : γ → World σ → Prop}
    (hkeep : ∀ d w₁ w₂, Moves runner C F w₁ w₂ → P d w₁ → P d w₂)
    (hstep : ∀ d ∈ l, ∀ w', Moves runner C F w w' → Runs runner C F (f d) w' fun _ => P d) :
    Runs runner C F (l.forM f) w fun _ w' => ∀ d ∈ l, P d w' := by
  induction l generalizing w with
  | nil => exact ⟨.refl w, fun _ _ => by simp⟩
  | cons d l ih =>
    change Runs runner C F (f d >>= fun _ => l.forM f) w _
    refine (hstep d List.mem_cons_self w (.refl w)).bind fun _ w' hm hd => ?_
    have hrest := ih (w := w') fun d' hd' w'' hm' => hstep d' (List.mem_cons_of_mem d hd') w'' (hm.trans hm')
    refine ⟨hrest.moves, fun a ha d' hd' => ?_⟩
    rcases List.mem_cons.1 hd' with rfl | hd'
    · exact hkeep _ _ _ hrest.moves hd
    · exact hrest.result a ha d' hd'

/-- attempts end with one that succeeded, or with none -/
theorem tryRuntimes_runs {c : Command} {last : BuildError} {rts : List JavaRuntime} {w : World σ} {n : Nat}
    (hn : n ≤ w.issued.length) (hC : ∀ r ∈ rts, C (c.withEnv "JAVA_HOME" r.home)) :
    Runs runner C F (tryRuntimes runner c last rts) w fun r w' =>
      r ∈ rts ∧ ⟨c.withEnv "JAVA_HOME" r.home, .ok ()⟩ ∈ w'.since n := by
  induction rts generalizing last w with
  | nil => exact .throw
  | cons r rest ih =>
    have hmove : Moves runner C F w (w.after runner (c.withEnv "JAVA_HOME" r.home)) :=
      (Moves.refl w).issue (hC r List.mem_cons_self)
    have he := exec_tryRuntimes_cons runner c last r rest w
    cases ha : w.answer runner (c.withEnv "JAVA_HOME" r.home) with
    | ok u =>
      rw [ha] at he
      refine ⟨by rw [he]; exact hmove, fun a hres => ?_⟩
      rw [he] at hres ⊢
      obtain rfl := Except.ok.inj hres
      refine ⟨List.mem_cons_self, ?_⟩
      rw [World.since, World.issued_after, ha, List.drop_append_of_le_length hn]
      exact List.mem_append_right _ (List.mem_singleton_self _)
    | error e =>
      rw [ha] at he
      dsimp only at he
      split_ifs at he with hf
      · have hrest := @ih e (w.after runner (c.withEnv "JAVA_HOME" r.home)) (le_trans hn (by simp))
          fun r' hr' => hC r' (List.mem_cons_of_mem r hr')
        refine ⟨by rw [he]; exact hmove.trans hrest.moves, fun a hres => ?_⟩
        rw [he] at hres ⊢
        obtain ⟨hmem, hok⟩ := hrest.result a hres
        exact ⟨List.mem_cons_of_mem r hmem, hok⟩
      · exact ⟨by rw [he]; exact hmove, fun a hres => by rw [he] at hres; cases hres⟩

end Session

end Benchwork.Build
