/-
Repositories at their revision.

A repository is set to its revision once, right after it was cloned. When that checkout fails, the clone stays, and the
next call takes the repository as it is: it is built, and reported as built, at whatever revision the clone came with.
Three phases describe a repository over any number of calls (`Phase`): it is absent; or it is there and its checkout
succeeded; or it is there and its checkout failed. No call leaves the third phase. So a call that succeeds has its
repository at the revision exactly when no checkout failed in an earlier call.

Commands are taken to do nothing to files, except that a clone that succeeds makes the directory of the repository.
-/
import Benchwork.Proofs.Build.Founder

namespace Benchwork.Build.Repository

open Benchwork.Text Session

variable {σ : Type} {shop : Workshop} {runner : Runner σ} {entry : ManifestEntry}

/-! ## Commands that only clone -/

/-- a clone that succeeds makes the directory of the repository, and nothing else touches files -/
structure ClonesOnly (shop : Workshop) (runner : Runner σ) (entry : ManifestEntry) : Prop where
  clone : ∀ (text : String) (memory : σ) (fs : FileStore), (shop.dirOf entry).text? = some text →
    (runner.run (cloneCommand entry.url text) memory fs).1 = .ok () →
    FileStore.pathExists { fs with root := (runner.run (cloneCommand entry.url text) memory fs).2.2 }
      (shop.dirOf entry) = true
  other : ∀ (c : Command) (memory : σ) (fs : FileStore),
    (∃ text, c = cloneCommand entry.url text ∧ (runner.run c memory fs).1 = .ok ()) ∨
      (runner.run c memory fs).2.2 = fs.root

/-- what is no clone leaves the files as they are -/
theorem ClonesOnly.files_after (hr : ClonesOnly shop runner entry) {w : World σ} {c : Command}
    (hc : ∀ text, c = cloneCommand entry.url text → ∃ e, w.answer runner c = .error e) :
    (w.after runner c).files = w.files := by
  rcases hr.other c w.memory w.files with ⟨text, hclone, hok⟩ | hroot
  · obtain ⟨e, he⟩ := hc text hclone
    rw [World.answer, hok] at he
    cases he
  · rw [World.after, hroot]

/-! ## The record of checkouts -/

def CheckoutFailed (shop : Workshop) (entry : ManifestEntry) (log : List Issued) : Prop :=
  ∃ i ∈ log, i.command = checkoutCommand entry.revision (shop.dirOf entry) ∧ i.answer ≠ .ok ()

instance (log : List Issued) : Decidable (CheckoutFailed shop entry log) :=
  inferInstanceAs (Decidable (∃ i ∈ log, _ ∧ _))

theorem exists_mem_append_of_ne {log new : List Issued} {c : Command} {A : Except BuildError Unit → Prop}
    (h : ∀ i ∈ new, i.command ≠ c) :
    (∃ i ∈ log ++ new, i.command = c ∧ A i.answer) ↔ ∃ i ∈ log, i.command = c ∧ A i.answer := by
  constructor
  · rintro ⟨i, hi, hc, ha⟩
    rcases List.mem_append.1 hi with hi | hi
    · exact ⟨i, hi, hc, ha⟩
    · exact absurd hc (h i hi)
  · rintro ⟨i, hi, ha⟩
    exact ⟨i, List.mem_append_left _ hi, ha⟩

theorem checkedOut_append {log new : List Issued}
    (h : ∀ i ∈ new, i.command ≠ checkoutCommand entry.revision (shop.dirOf entry)) :
    CheckedOut shop entry (log ++ new) ↔ CheckedOut shop entry log :=
  exists_mem_append_of_ne (A := (· = .ok ())) h

theorem checkoutFailed_append {log new : List Issued}
    (h : ∀ i ∈ new, i.command ≠ checkoutCommand entry.revision (shop.dirOf entry)) :
    CheckoutFailed shop entry (log ++ new) ↔ CheckoutFailed shop entry log :=
  exists_mem_append_of_ne (A := (· ≠ .ok ())) h

/-! ## Phases -/

/-- a repository over any number of calls: absent, at its revision, or at another one -/
inductive Phase (shop : Workshop) (entry : ManifestEntry) (w : World σ) : Prop
  | absent : w.files.pathExists (shop.dirOf entry) = false → ¬ CheckedOut shop entry w.issued →
      ¬ CheckoutFailed shop entry w.issued → Phase shop entry w
  | pinned : w.files.pathExists (shop.dirOf entry) = true → CheckedOut shop entry w.issued →
      ¬ CheckoutFailed shop entry w.issued → Phase shop entry w
  | adrift : w.files.pathExists (shop.dirOf entry) = true → ¬ CheckedOut shop entry w.issued →
      CheckoutFailed shop entry w.issued → Phase shop entry w

/-- the stages run no checkout and leave the repository where it is -/
theorem moves_phase (hr : ClonesOnly shop runner entry) {libs : Path} {F : World σ → Path → Prop} {w w' : World σ}
    (h : Moves runner (IsStep shop libs) F w w') :
    (w.files.pathExists (shop.dirOf entry) = true → w'.files.pathExists (shop.dirOf entry) = true) ∧
      (CheckedOut shop entry w'.issued ↔ CheckedOut shop entry w.issued) ∧
      (CheckoutFailed shop entry w'.issued ↔ CheckoutFailed shop entry w.issued) := by
  have hstep : ∀ c, IsStep shop libs c → ∀ text, c ≠ cloneCommand entry.url text := by
    rintro _ hc text rfl
    exact hc.program_ne_git rfl
  refine ⟨fun hp => ?_, ?_⟩
  · induction h with
    | refl => exact hp
    | issue _ hc ih => rw [hr.files_after fun text ht => absurd ht (hstep _ hc text)]; exact ih
    | touch _ _ hf ih => exact (FileStore.edit_extends hf).pathExists ih
  · obtain ⟨new, hnew, hall⟩ := h.issued
    have hne : ∀ i ∈ new, i.command ≠ checkoutCommand entry.revision (shop.dirOf entry) :=
      fun i hi => (hall i hi).ne_checkoutCommand _ _
    rw [hnew]
    exact ⟨checkedOut_append hne, checkoutFailed_append hne⟩

/-- the first checkout decides where the repository is -/
theorem checkout_phase (hr : ClonesOnly shop runner entry) {w : World σ}
    (hp : w.files.pathExists (shop.dirOf entry) = true) (hc : ¬ CheckedOut shop entry w.issued)
    (hf : ¬ CheckoutFailed shop entry w.issued) :
    Phase shop entry (w.after runner (checkoutCommand entry.revision (shop.dirOf entry))) ∧
      (w.answer runner (checkoutCommand entry.revision (shop.dirOf entry)) = .ok () →
        CheckedOut shop entry (w.after runner (checkoutCommand entry.revision (shop.dirOf entry))).issued) := by
  have hfiles : (w.after runner (checkoutCommand entry.revision (shop.dirOf entry))).files = w.files :=
    hr.files_after fun text h => absurd h.symm (cloneCommand_ne_checkoutCommand _ _ _ _)
  have hthere : (w.after runner (checkoutCommand entry.revision (shop.dirOf entry))).files.pathExists
      (shop.dirOf entry) = true := by rw [hfiles]; exact hp
  cases ha : w.answer runner (checkoutCommand entry.revision (shop.dirOf entry)) with
  | ok u =>
    have hdone : CheckedOut shop entry (w.after runner (checkoutCommand entry.revision (shop.dirOf entry))).issued := by
      rw [World.issued_after, ha]
      exact ⟨_, List.mem_append_right _ (List.mem_singleton_self _), rfl, rfl⟩
    refine ⟨.pinned hthere hdone ?_, fun _ => hdone⟩
    rintro ⟨i, hi, hcommand, hanswer⟩
    rw [World.issued_after, ha] at hi
    rcases List.mem_append.1 hi with hi | hi
    · exact hf ⟨i, hi, hcommand, hanswer⟩
    · rw [List.mem_singleton.1 hi] at hanswer
      exact hanswer rfl
  | error e =>
    refine ⟨.adrift hthere ?_ ?_, fun h => by cases h⟩
    · rintro ⟨i, hi, hcommand, hanswer⟩
      rw [World.issued_after, ha] at hi
      rcases List.mem_append.1 hi with hi | hi
      · exact hc ⟨i, hi, hcommand, hanswer⟩
      · rw [List.mem_singleton.1 hi] at hanswer
        cases hanswer
    · rw [World.issued_after, ha]
      exact ⟨_, List.mem_append_right _ (List.mem_singleton_self _), rfl, by simp⟩

/-- writing to the files moves no repository to another phase -/
theorem Phase.edit {w : World σ} {p : Path} {change : List UInt8 → List UInt8} {files : FileStore}
    (h : Phase shop entry w) (hp : w.files.pathExists (shop.dirOf entry) = true)
    (hf : w.files.edit p change = .ok files) : Phase shop entry { w with files } := by
  have hthere : files.pathExists (shop.dirOf entry) = true := (FileStore.edit_extends hf).pathExists hp
  cases h with
  | absent ha => simp [hp] at ha
  | pinned _ hc hn => exact .pinned hthere hc hn
  | adrift _ hc hn => exact .adrift hthere hc hn

/-- fetching an absent repository leaves it absent, pins it, or sets it adrift -/
theorem fetched_phase (hr : ClonesOnly shop runner entry) {text : String} (ht : (shop.dirOf entry).text? = some text)
    {w w' : World σ} {r : Except BuildError Unit} (h : Fetched runner entry (shop.dirOf entry) text w r w')
    (hp : w.files.pathExists (shop.dirOf entry) = false) (hc : ¬ CheckedOut shop entry w.issued)
    (hf : ¬ CheckoutFailed shop entry w.issued) :
    Phase shop entry w' ∧ (r = .ok () → CheckedOut shop entry w'.issued) := by
  have hne : ∀ i ∈ [(⟨cloneCommand entry.url text, w.answer runner (cloneCommand entry.url text)⟩ : Issued)],
      i.command ≠ checkoutCommand entry.revision (shop.dirOf entry) := by
    intro i hi
    rw [List.mem_singleton.1 hi]
    exact cloneCommand_ne_checkoutCommand _ _ _ _
  have hc' : ¬ CheckedOut shop entry (w.after runner (cloneCommand entry.url text)).issued :=
    mt (checkedOut_append hne).1 hc
  have hf' : ¬ CheckoutFailed shop entry (w.after runner (cloneCommand entry.url text)).issued :=
    mt (checkoutFailed_append hne).1 hf
  have hmade : w.answer runner (cloneCommand entry.url text) = .ok () →
      (w.after runner (cloneCommand entry.url text)).files.pathExists (shop.dirOf entry) = true :=
    hr.clone text w.memory w.files ht
  cases h with
  | cloneFailed ha =>
    refine ⟨.absent ?_ hc' hf', fun h => by cases h⟩
    rw [hr.files_after fun _ _ => ⟨_, ha⟩]
    exact hp
  | checkoutFailed ha h _ =>
    subst h
    exact ⟨(checkout_phase hr (hmade ha) hc' hf').1, fun h => by cases h⟩
  | ignoreFailed ha h _ h' =>
    subst h h'
    exact ⟨(checkout_phase hr (hmade ha) hc' hf').1, fun h => by cases h⟩
  | done ha h hb h' hedit =>
    subst h h'
    obtain ⟨hphase, hdone⟩ := checkout_phase hr (hmade ha) hc' hf'
    refine ⟨hphase.edit ?_ hedit, fun _ => hdone hb⟩
    rw [hr.files_after fun text h => absurd h.symm (cloneCommand_ne_checkoutCommand _ _ _ _)]
    exact hmade ha

theorem Phase.there {w : World σ} (h : Phase shop entry w) (hc : CheckedOut shop entry w.issued) :
    w.files.pathExists (shop.dirOf entry) = true := by
  cases h with
  | absent _ hn => exact absurd hc hn
  | pinned hp => exact hp
  | adrift hp => exact hp

theorem arrives_phase (hr : ClonesOnly shop runner entry) {w w' : World σ} {r : Except BuildError Unit}
    (hw : Phase shop entry w) (h : Arrives shop runner entry w r w') :
    Phase shop entry w' ∧
      (r = .ok () → w'.files.pathExists (shop.dirOf entry) = true ∧
        (CheckedOut shop entry w'.issued ↔ ¬ CheckoutFailed shop entry w.issued)) := by
  cases h with
  | notText => exact ⟨hw, fun h => by cases h⟩
  | there _ hp =>
    refine ⟨hw, fun _ => ⟨hp, ?_⟩⟩
    cases hw with
    | absent ha => simp [hp] at ha
    | pinned _ hc hf => exact ⟨fun _ => hf, fun _ => hc⟩
    | adrift _ hc hf => exact ⟨fun h => absurd h hc, fun h => absurd hf h⟩
  | fetch ht hp hfetch =>
    cases hw with
    | absent _ hc hf =>
      obtain ⟨hphase, hdone⟩ := fetched_phase hr ht hfetch hp hc hf
      exact ⟨hphase, fun h => ⟨hphase.there (hdone h), fun _ => hf, fun _ => hdone h⟩⟩
    | pinned hp' => simp [hp] at hp'
    | adrift hp' => simp [hp] at hp'

/-- what one call does to the phase, and what its success tells -/
theorem process_phase (hr : ClonesOnly shop runner entry) {w w' : World σ} {r : Except BuildError Outcome}
    (hw : Phase shop entry w) (h : (process shop runner entry).exec w = (r, w')) :
    Phase shop entry w' ∧
      ∀ o, r = .ok o → (CheckedOut shop entry w'.issued ↔ ¬ CheckoutFailed shop entry w.issued) := by
  cases processes_process h with
  | notArrived ha => exact ⟨(arrives_phase hr hw ha.arrives).1, fun o ho => by cases ho⟩
  | passed ha =>
    obtain ⟨hphase, hok⟩ := arrives_phase hr hw ha.arrives
    exact ⟨hphase, fun _ _ => (hok rfl).2⟩
  | undetected ha => exact ⟨(arrives_phase hr hw ha.arrives).1, fun o ho => by cases ho⟩
  | staged ha _ _ hmoves =>
    obtain ⟨hphase, hok⟩ := arrives_phase hr hw ha.arrives
    obtain ⟨hthere, hiff⟩ := hok rfl
    obtain ⟨hkeep, hc, hf⟩ := moves_phase hr hmoves
    refine ⟨?_, fun _ _ => hc.trans hiff⟩
    cases hphase with
    | absent hp => simp [hthere] at hp
    | pinned hp hc₁ hf₁ => exact .pinned (hkeep hp) (hc.2 hc₁) (mt hf.1 hf₁)
    | adrift hp hc₁ hf₁ => exact .adrift (hkeep hp) (mt hc.1 hc₁) (hf.2 hf₁)

/-! ## Any number of calls -/

def afterCalls (shop : Workshop) (runner : Runner σ) (entry : ManifestEntry) (w : World σ) : Nat → World σ
  | 0 => w
  | n + 1 => ((process shop runner entry).exec (afterCalls shop runner entry w n)).2

theorem afterCalls_phase (hr : ClonesOnly shop runner entry) {w : World σ} (hw : Phase shop entry w) (n : Nat) :
    Phase shop entry (afterCalls shop runner entry w n) := by
  induction n with
  | zero => exact hw
  | succ n ih => exact (process_phase hr ih rfl).1

/-- **A repository that is reported as done is at its revision exactly when no checkout failed in an earlier call.**
The calls start without the directory of the repository, and answers may come in any order. -/
theorem checkedOut_iff_never_failed (shop : Workshop) (runner : Runner σ) (entry : ManifestEntry)
    (hr : ClonesOnly shop runner entry) (w : World σ) (hw : w.files.pathExists (shop.dirOf entry) = false)
    (hlog : w.issued = []) (n : Nat) (o : Outcome)
    (h : ((process shop runner entry).exec (afterCalls shop runner entry w n)).1 = .ok o) :
    CheckedOut shop entry (afterCalls shop runner entry w (n + 1)).issued ↔
      ¬ CheckoutFailed shop entry (afterCalls shop runner entry w n).issued := by
  have hstart : Phase shop entry w :=
    .absent hw (by simp [CheckedOut, Succeeded, hlog]) (by simp [CheckoutFailed, hlog])
  exact (process_phase hr (afterCalls_phase hr hstart n) rfl).2 o h

theorem founder_clonesOnly {h : Hosted} (hvalid : h.Valid) (failing : List Nat) (hurl : entry.url = h.url)
    (hdir : reposShop.dirOf entry = h.dir) : ClonesOnly reposShop (founder [h] failing) entry := by
  constructor
  · intro text calls fs htext hok
    obtain rfl : "repos/" ++ h.name = text := Option.some.inj (hvalid.text.symm.trans (hdir ▸ htext))
    rw [hurl] at hok ⊢
    rcases founder_cases [h] failing h.cloning calls fs with ⟨e, hrun⟩ | ⟨hne, -⟩ | ⟨h', hmem, -, hcwd, hd, hfree, hrun⟩
    · rw [Hosted.cloning] at hrun
      rw [hrun] at hok
      cases hok
    · exact absurd rfl (hne h (List.mem_singleton_self h))
    · obtain rfl := List.mem_singleton.1 hmem
      rw [Hosted.cloning] at hrun
      rw [hrun, hdir]
      exact FileStore.pathExists_iff.2 ⟨_, (hvalid.leads_put hcwd hd hfree).1⟩
  · intro c calls fs
    rcases founder_cases [h] failing c calls fs with ⟨e, hrun⟩ | ⟨-, hrun⟩ | ⟨h', hmem, rfl, -, -, -, hrun⟩
    · exact .inr (by rw [hrun])
    · exact .inr (by rw [hrun])
    · obtain rfl := List.mem_singleton.1 hmem
      exact .inl ⟨_, by rw [hurl]; rfl, by rw [hrun]⟩

/-- a call whose clone fails, and one that goes through: the repository is at its revision then -/
theorem checkedOut_after_failed_clone :
    let entry : ManifestEntry := ⟨"https://example.com/foo.git", "v1"⟩
    let runner := founder [⟨entry.url, "foo", mavenProject⟩] [0]
    let w : World Nat := ⟨⟨.dir [(reposName, .empty)], []⟩, 0, []⟩
    ((process reposShop runner entry).exec w).1 ≠ .ok .built ∧
      ((process reposShop runner entry).exec (afterCalls reposShop runner entry w 1)).1 = .ok .built ∧
      CheckedOut reposShop entry (afterCalls reposShop runner entry w 2).issued := by
  intro entry runner w
  have hfirst : ((process reposShop runner entry).exec w).1 ≠ .ok .built := by decide +kernel
  have hsecond : ((process reposShop runner entry).exec (afterCalls reposShop runner entry w 1)).1 = .ok .built := by
    decide +kernel
  have hnever : ¬ CheckoutFailed reposShop entry (afterCalls reposShop runner entry w 1).issued := by decide +kernel
  have hclones : ClonesOnly reposShop runner entry :=
    founder_clonesOnly (by decide +kernel) [0] rfl (by decide +kernel)
  exact ⟨hfirst, hsecond, (checkedOut_iff_never_failed reposShop runner entry hclones w (by decide +kernel) rfl 1 .built
    hsecond).2 hnever⟩

/-- **A repository can be reported as built though it was never checked out**: the first call clones it and its checkout
fails, the second one finds the directory there and builds what is in it. -/
theorem built_without_checkout :
    let entry : ManifestEntry := ⟨"https://example.com/foo.git", "v1"⟩
    let runner := founder [⟨entry.url, "foo", mavenProject⟩] [1]
    let w : World Nat := ⟨⟨.dir [(reposName, .empty)], []⟩, 0, []⟩
    ClonesOnly reposShop runner entry ∧ w.files.pathExists (reposShop.dirOf entry) = false ∧
      ((process reposShop runner entry).exec (afterCalls reposShop runner entry w 1)).1 = .ok .built ∧
      ¬ CheckedOut reposShop entry (afterCalls reposShop runner entry w 2).issued := by
  refine ⟨founder_clonesOnly ?_ [1] rfl ?_, ?_⟩ <;> decide +kernel

end Benchwork.Build.Repository
