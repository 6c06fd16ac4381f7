/-
Repositories that share a directory.

A repository lives in a directory that is named after the last segment of its URL. Entries whose URLs end alike have one
directory between them: the first of them is fetched, and the others take what they find there for their own. An entry
whose URL gives no name of its own has the directory of all repositories for its own, and nothing is fetched for it.
When a run that began without that directory succeeds, an entry was cloned and checked out exactly when its name is an
ordinary one and it is, up to repetition, the first entry with its directory.

Commands are taken to keep the directory of repositories in order (`Orderly`): it stays, with the repositories in it, no
links come into it, and the only repository that a command adds to it is the one that the command is a clone into.
-/
import Benchwork.Proofs.Build.Founder

namespace Benchwork.Build

open Benchwork.Text

namespace Repository

open Session

variable {σ : Type} {shop : Workshop} {runner : Runner σ}

/-! ## The directory of repositories -/

/-- the directory of repositories is there, and nothing in it is a link -/
def Housed (shop : Workshop) (fs : FileStore) : Prop :=
  ∃ R, fs.Leads .target shop.reposDir (.found R) ∧ fs.root.view R = some .dir ∧
    ∀ n target, fs.root.view (R ++ [n]) ≠ some (.link target)

def IsCloneInto (dir : Path) (c : Command) : Prop := ∃ url text, dir.text? = some text ∧ c = cloneCommand url text

/-- commands that keep the directory of repositories in order -/
structure Orderly (shop : Workshop) (runner : Runner σ) : Prop where
  housed : ∀ (w : World σ) (c : Command), Housed shop w.files → Housed shop (w.after runner c).files
  stay : ∀ (w : World σ) (c : Command) (e : ManifestEntry), Housed shop w.files →
    w.files.isDir (shop.dirOf e) = true → (w.after runner c).files.isDir (shop.dirOf e) = true
  add : ∀ (w : World σ) (c : Command) (e : ManifestEntry), Housed shop w.files →
    (w.after runner c).files.isDir (shop.dirOf e) = true →
    w.files.isDir (shop.dirOf e) = true ∨ IsCloneInto (shop.dirOf e) c

theorem Housed.edit {fs fs' : FileStore} {p : Path} {change : List UInt8 → List UInt8} (hh : Housed shop fs)
    (h : fs.edit p change = .ok fs') : Housed shop fs' := by
  obtain ⟨R, hR, hd, hlink⟩ := hh
  have hways := (FileStore.edit_extends h).toKeepsWays
  refine ⟨R, hR.retrace hways (.inl (hways.dir R hd)), hways.dir R hd, fun n target hv => ?_⟩
  obtain ⟨r, c, -, -, -, hplaced, -⟩ := FileStore.edit_eq_ok h
  by_cases hloc : R ++ [n] = r.loc
  · rw [hloc, hplaced.view_self] at hv
    cases hv
  · exact hlink n target (by rw [← hplaced.view_of_ne hloc, hv])

theorem dirOf_ne_nil {fs : FileStore} (h : Housed shop fs) (e : ManifestEntry) : (shop.dirOf e).bytes ≠ [] := by
  obtain ⟨R, hR, -⟩ := h
  exact Path.join_ne_nil (Path.isAbsolute_of_not_mem e.slash_not_mem_dirName) (.inl hR.nonempty)

/-- a directory of repositories that was just made has none in it -/
theorem isDir_dirOf_of_fresh {fs : FileStore} {R : Location} {e : ManifestEntry}
    (hR : fs.Leads .target shop.reposDir (.found R)) (hfresh : ∀ n, fs.root.view (R ++ [n]) = none)
    (hn : Path.IsOrdinary e.dirName) : fs.isDir (shop.dirOf e) = false := by
  rw [Bool.eq_false_iff]
  intro h
  obtain ⟨L, hL, -⟩ := FileStore.isDir_iff.1 h
  obtain ⟨R', k, hR', -, hreach⟩ := FileStore.Leads.parent hn hR.nonempty hL
  obtain rfl := FileStore.Place.found.inj (hR'.unique hR)
  exact hreach.child_of_found (hfresh _)

/-- a repository without a name of its own has the directory of repositories or the one above it -/
theorem Housed.isDir_dirOf {fs fs' : FileStore} {e : ManifestEntry} (h : Housed shop fs)
    (hn : ¬ Path.IsOrdinary e.dirName) (hlimits : fs'.isDir (shop.dirOf e) = true) :
    fs.isDir (shop.dirOf e) = true := by
  obtain ⟨R, hR, hd, -⟩ := h
  obtain ⟨L, hL, -⟩ := FileStore.isDir_iff.1 hlimits
  exact (hR.enters hd).stay e.slash_not_mem_dirName hn hL.clean hL.nonempty hL.short

/-! ## One repository -/

/-- build steps and markers make no directories and take none away -/
theorem Orderly.moves (hr : Orderly shop runner) {libs : Path} {F : World σ → Path → Prop} {w w' : World σ}
    (h : Moves runner (IsStep shop libs) F w w') (hh : Housed shop w.files) :
    Housed shop w'.files ∧ ∀ e, w'.files.isDir (shop.dirOf e) = w.files.isDir (shop.dirOf e) := by
  induction h with
  | refl => exact ⟨hh, fun _ => rfl⟩
  | @issue w' c _ hc ih =>
    obtain ⟨hh', hsame⟩ := ih
    refine ⟨hr.housed w' c hh', fun e => ?_⟩
    rw [← hsame e, Bool.eq_iff_iff]
    refine ⟨fun hd => ?_, hr.stay w' c e hh'⟩
    rcases hr.add w' c e hh' hd with hd | ⟨url, text, -, rfl⟩
    · exact hd
    · exact absurd rfl hc.program_ne_git
  | touch _ _ hf ih =>
    obtain ⟨hh', hsame⟩ := ih
    exact ⟨hh'.edit hf, fun e => by rw [FileStore.edit_isDir hf, hsame e]⟩

def fetchRecord (e : ManifestEntry) (dir : Path) (text : String) : List Issued :=
  [⟨cloneCommand e.url text, .ok ()⟩, ⟨checkoutCommand e.revision dir, .ok ()⟩]

/-- a repository was taken in: fetched where it was not there, and built -/
structure TakenIn (shop : Workshop) (e : ManifestEntry) (w w' : World σ) : Prop where
  housed : Housed shop w'.files
  isDir : ∀ f, w'.files.isDir (shop.dirOf f) = true ↔ w.files.isDir (shop.dirOf f) = true ∨ shop.dirOf f = shop.dirOf e
  issued : ∃ text libs steps, (shop.dirOf e).text? = some text ∧ (∀ i ∈ steps, IsStep shop libs i.command) ∧
    w'.issued = w.issued ++
      ((if w.files.isDir (shop.dirOf e) then [] else fetchRecord e (shop.dirOf e) text) ++ steps)

theorem isCloneInto_cloneCommand {url text : String} {dir dir' : Path} (ht : dir.text? = some text)
    (h : IsCloneInto dir' (cloneCommand url text)) : dir' = dir := by
  obtain ⟨url', text', ht', heq⟩ := h
  exact (dir_eq_of_cloneCommand heq ht ht').symm

/-- a repository that was got at was there already, or is new and nothing else is -/
theorem Orderly.arrives (hr : Orderly shop runner) {e : ManifestEntry} {w w' : World σ} (hh : Housed shop w.files)
    (h : Arrives shop runner e w (.ok ()) w') :
    ∃ text, (shop.dirOf e).text? = some text ∧
      (w' = w ∨ w.files.isDir (shop.dirOf e) = false ∧ w'.issued = w.issued ++ fetchRecord e (shop.dirOf e) text ∧
        Housed shop w'.files ∧
        (∀ f, w.files.isDir (shop.dirOf f) = true → w'.files.isDir (shop.dirOf f) = true) ∧
        ∀ f, w'.files.isDir (shop.dirOf f) = true →
          w.files.isDir (shop.dirOf f) = true ∨ shop.dirOf f = shop.dirOf e) := by
  cases h with
  | there ht _ => exact ⟨_, ht, .inl rfl⟩
  | fetch ht hp hfetched =>
    refine ⟨_, ht, .inr ?_⟩
    have hnot : w.files.isDir (shop.dirOf e) = false := by
      rw [Bool.eq_false_iff]
      intro hd
      rw [FileStore.pathExists_of_isDir hd] at hp
      cases hp
    cases hfetched with
    | @done w₁ w₂ files hclone hw₁ hcheckout hw₂ hignore =>
      have hh₁ : Housed shop w₁.files := hw₁ ▸ hr.housed _ _ hh
      have hh₂ : Housed shop w₂.files := hw₂ ▸ hr.housed _ _ hh₁
      refine ⟨hnot, ?_, hh₂.edit hignore, fun f hd => ?_, fun f hd => ?_⟩
      · rw [hw₂, World.issued_after, hcheckout, hw₁, World.issued_after, hclone, List.append_assoc]
        rfl
      · rw [FileStore.edit_isDir hignore, hw₂]
        exact hr.stay _ _ f hh₁ (hw₁ ▸ hr.stay _ _ f hh hd)
      · rw [FileStore.edit_isDir hignore, hw₂] at hd
        rcases hr.add _ _ f hh₁ hd with hd | ⟨url, text, -, hc⟩
        · rw [hw₁] at hd
          exact (hr.add _ _ f hh hd).imp_right (isCloneInto_cloneCommand ht)
        · exact absurd hc.symm (cloneCommand_ne_checkoutCommand _ _ _ _)

theorem Orderly.takenIn (hr : Orderly shop runner) {e : ManifestEntry} {w w' : World σ} {o : Outcome}
    (hh : Housed shop w.files) (h : (process shop runner e).exec w = (.ok o, w')) : TakenIn shop e w w' := by
  obtain ⟨w₁, libs, F, harrives, hmoves, hmarker⟩ := (processes_process h).done
  obtain ⟨text, ht, hcases⟩ := hr.arrives hh harrives
  obtain ⟨steps, hissued, hsteps⟩ := hmoves.issued
  have hdir : w'.files.isDir (shop.dirOf e) = true := isDir_of_inside (dirOf_ne_nil hh e) (by decide) hmarker
  rcases hcases with rfl | ⟨hnot, hrecord, hh₁, hstay, hadd⟩
  · obtain ⟨hh', hsame⟩ := hr.moves hmoves hh
    refine ⟨hh', fun f => ?_, text, libs, steps, ht, hsteps, by rw [hissued, ← hsame e, hdir]; rfl⟩
    rw [hsame f]
    refine ⟨.inl, fun hf => hf.elim id fun heq => ?_⟩
    rw [heq, ← hsame e, hdir]
  · obtain ⟨hh', hsame⟩ := hr.moves hmoves hh₁
    refine ⟨hh', fun f => ?_, text, libs, steps, ht, hsteps, ?_⟩
    · rw [hsame f]
      refine ⟨hadd f, fun hf => hf.elim (hstay f) fun heq => ?_⟩
      rw [heq, ← hsame e, hdir]
    · rw [hissued, hrecord, hnot, List.append_assoc]
      rfl

/-! ## All repositories -/

/-- a command belongs to fetching the entries with the directory of `e` and the property `Q`, and to nothing else -/
structure Fetches (shop : Workshop) (e : ManifestEntry) (Q : ManifestEntry → Prop) (c : Command) : Prop where
  notStep : ∀ libs, ¬ IsStep shop libs c
  fetching : ∀ f text, (shop.dirOf f).text? = some text →
    (Succeeded c (fetchRecord f (shop.dirOf f) text) ↔ shop.dirOf f = shop.dirOf e ∧ Q f)

theorem succeeded_fetchRecord {c : Command} {f : ManifestEntry} {dir : Path} {text : String} :
    Succeeded c (fetchRecord f dir text) ↔ cloneCommand f.url text = c ∨ checkoutCommand f.revision dir = c := by
  simp [Succeeded, fetchRecord]

theorem fetches_clone {e : ManifestEntry} {text : String} (ht : (shop.dirOf e).text? = some text) :
    Fetches shop e (·.url = e.url) (cloneCommand e.url text) where
  notStep := fun libs h => h.program_ne_git rfl
  fetching := by
    intro f text' ht'
    rw [succeeded_fetchRecord, or_iff_left (cloneCommand_ne_checkoutCommand _ _ _ _).symm]
    constructor
    · intro h
      have hdir : shop.dirOf f = shop.dirOf e := isCloneInto_cloneCommand ht ⟨f.url, text', ht', h.symm⟩
      refine ⟨hdir, ?_⟩
      simpa [cloneCommand, Command.arg] using congrArg (·.args.tail.head?) h
    · rintro ⟨hdir, hurl⟩
      rw [hdir, ht] at ht'
      rw [hurl, Option.some.inj ht']

theorem fetches_checkout (e : ManifestEntry) :
    Fetches shop e (·.revision = e.revision) (checkoutCommand e.revision (shop.dirOf e)) where
  notStep := fun libs h => h.program_ne_git rfl
  fetching := by
    intro f text _
    rw [succeeded_fetchRecord, or_iff_right (cloneCommand_ne_checkoutCommand _ _ _ _)]
    simp only [checkoutCommand, Command.arg, Command.inDir, Command.mk.injEq, List.append_cancel_left_eq,
      List.cons.injEq, and_true, true_and, Option.some.injEq]
    exact and_comm

/-- taking in a repository issues what belongs to fetching it when it was not there -/
theorem TakenIn.succeeded {e f : ManifestEntry} {Q : ManifestEntry → Prop} {c : Command} {w w' : World σ}
    (h : TakenIn shop f w w') (hc : Fetches shop e Q c) :
    ∃ new, w'.issued = w.issued ++ new ∧
      (Succeeded c new ↔ w.files.isDir (shop.dirOf e) = false ∧ shop.dirOf f = shop.dirOf e ∧ Q f) := by
  obtain ⟨text, libs, steps, ht, hsteps, hissued⟩ := h.issued
  refine ⟨_, hissued, ?_⟩
  have hnot : ¬ Succeeded c steps := not_succeeded fun i hi heq => hc.notStep libs (heq ▸ hsteps i hi)
  rw [succeeded_append, or_iff_left hnot]
  cases hd : w.files.isDir (shop.dirOf f) with
  | true =>
    refine ⟨fun ⟨_, hi, _⟩ => absurd hi (by simp), fun ⟨hnew, heq, _⟩ => ?_⟩
    rw [heq, hnew] at hd
    cases hd
  | false =>
    rw [if_neg (by simp), hc.fetching f text ht]
    exact ⟨fun hf => ⟨hf.1 ▸ hd, hf⟩, fun hf => hf.2⟩

/-- when all entries are done, their directories are there -/
theorem Orderly.processAll_isDir (hr : Orderly shop runner) {es : List ManifestEntry} {w w' : World σ}
    (hh : Housed shop w.files) (h : (processAll shop runner es).exec w = (.ok (), w')) {e : ManifestEntry}
    (he : e ∈ es ∨ w.files.isDir (shop.dirOf e) = true) : w'.files.isDir (shop.dirOf e) = true := by
  induction es generalizing w with
  | nil =>
    obtain rfl := (Prod.mk.inj h).2
    exact he.resolve_left (by simp)
  | cons f es ih =>
    obtain ⟨o, w₁, hf, hrest⟩ := exec_processAll_cons h
    have htaken := hr.takenIn hh hf
    refine ih htaken.housed hrest ?_
    rcases he with he | hd
    · rcases List.mem_cons.1 he with rfl | he
      · exact .inr ((htaken.isDir e).2 (.inr rfl))
      · exact .inl he
    · exact .inr ((htaken.isDir e).2 (.inl hd))

/-- what belongs to fetching the entries with one directory is issued for the first of them, if at all -/
theorem Orderly.processAll_succeeded (hr : Orderly shop runner) {e : ManifestEntry} {Q : ManifestEntry → Prop}
    {c : Command} (hc : Fetches shop e Q c) {es : List ManifestEntry} {w w' : World σ} (hh : Housed shop w.files)
    (h : (processAll shop runner es).exec w = (.ok (), w')) :
    ∃ new, w'.issued = w.issued ++ new ∧
      (Succeeded c new ↔ w.files.isDir (shop.dirOf e) = false ∧
        ∃ f, es.find? (shop.dirOf · = shop.dirOf e) = some f ∧ Q f) := by
  induction es generalizing w with
  | nil =>
    obtain rfl := (Prod.mk.inj h).2
    exact ⟨[], by simp, by simp [Succeeded]⟩
  | cons f es ih =>
    obtain ⟨o, w₁, hf, hrest⟩ := exec_processAll_cons h
    have htaken := hr.takenIn hh hf
    obtain ⟨new₁, hnew₁, hsucc₁⟩ := htaken.succeeded hc
    obtain ⟨new₂, hnew₂, hsucc₂⟩ := ih htaken.housed hrest
    refine ⟨new₁ ++ new₂, by rw [hnew₂, hnew₁, List.append_assoc], ?_⟩
    rw [succeeded_append, hsucc₁, hsucc₂]
    -- the first entry takes the directory, so that the rest of them find it there
    by_cases hdir : shop.dirOf f = shop.dirOf e
    · have hthere : w₁.files.isDir (shop.dirOf e) = true := (htaken.isDir e).2 (.inr hdir.symm)
      simp [hdir, hthere]
    · have hsame : w₁.files.isDir (shop.dirOf e) = w.files.isDir (shop.dirOf e) := by
        rw [Bool.eq_iff_iff, htaken.isDir e, or_iff_left (Ne.symm hdir)]
      simp [hdir, hsame]

theorem processAll_text {es : List ManifestEntry} {w w' : World σ} {e : ManifestEntry} (he : e ∈ es)
    (h : (processAll shop runner es).exec w = (.ok (), w')) : (shop.dirOf e).text?.isSome = true := by
  induction es generalizing w with
  | nil => simp at he
  | cons f es ih =>
    obtain ⟨o, w₁, hf, hrest⟩ := exec_processAll_cons h
    rcases List.mem_cons.1 he with rfl | he
    · obtain ⟨w₂, -, -, ha, -⟩ := (processes_process hf).done
      exact ha.text
    · exact ih he hrest

/-- the entry was fetched: a clone of its URL into its directory and a checkout of its revision there succeeded -/
def Served (shop : Workshop) (e : ManifestEntry) (log : List Issued) : Prop :=
  Cloned shop e log ∧ CheckedOut shop e log

instance (e : ManifestEntry) (log : List Issued) : Decidable (Served shop e log) :=
  inferInstanceAs (Decidable (_ ∧ _))

theorem Orderly.processAll_served (hr : Orderly shop runner) {es : List ManifestEntry} {w w' : World σ}
    (hh : Housed shop w.files) (h : (processAll shop runner es).exec w = (.ok (), w'))
    {e : ManifestEntry} (he : e ∈ es) :
    Served shop e (w'.since w.issued.length) ↔
      w.files.isDir (shop.dirOf e) = false ∧ es.find? (shop.dirOf · = shop.dirOf e) = some e := by
  obtain ⟨text, ht⟩ := Option.isSome_iff_exists.1 (processAll_text he h)
  obtain ⟨new, hnew, hclone⟩ := hr.processAll_succeeded (fetches_clone ht) hh h
  obtain ⟨new', hnew', hcheckout⟩ := hr.processAll_succeeded (fetches_checkout e) hh h
  obtain rfl : new = new' := List.append_cancel_left (hnew.symm.trans hnew')
  have hcloned : Cloned shop e new ↔ Succeeded (cloneCommand e.url text) new := by simp [Cloned, ht]
  rw [World.since, hnew, List.drop_left, Served, hcloned, CheckedOut, hclone, hcheckout]
  constructor
  · rintro ⟨⟨hd, f, hf, hurl⟩, -, f', hf', hrevision⟩
    obtain rfl : f = f' := Option.some.inj (hf.symm.trans hf')
    obtain rfl : f = e := by
      cases f
      cases e
      simp_all
    exact ⟨hd, hf⟩
  · rintro ⟨hd, hf⟩
    exact ⟨⟨hd, e, hf, rfl⟩, hd, e, hf, rfl⟩

/-- **When a run that began without the directory of repositories succeeds, an entry was fetched exactly when it has a
name of its own and is the first entry with its directory.** Any other entry was served from the working copy of the
first one, whatever its own URL and revision are. The path of the directory must neither be empty nor go up: otherwise
it can turn out to be a directory that was there before. -/
theorem served_iff_first (shop : Workshop) (runner : Runner σ) (hr : Orderly shop runner)
    (hdir : shop.reposDir.bytes ≠ []) (hup : [Path.dot, Path.dot] ∉ FileStore.segmentsOf shop.reposDir)
    (entries : List ManifestEntry) (w w' : World σ) (hw : w.files.isDir shop.reposDir = false)
    (h : (run shop runner entries).exec w = (.ok (), w')) (e : ManifestEntry) (he : e ∈ entries) :
    Served shop e (w'.since w.issued.length) ↔
      Path.IsOrdinary e.dirName ∧ entries.find? (shop.dirOf · = shop.dirOf e) = some e := by
  obtain ⟨files, hmake, hall⟩ := exec_run_ok h
  obtain ⟨R, hR, hd, hfresh⟩ := FileStore.makeDirs_fresh hdir hup hw hmake
  have hh : Housed shop files := ⟨R, hR, hd, fun n target => by simp [hfresh n]⟩
  have hend := hr.processAll_isDir hh hall (.inl he)
  have hnew : files.isDir (shop.dirOf e) = false ↔ Path.IsOrdinary e.dirName := by
    refine ⟨fun hnot => ?_, isDir_dirOf_of_fresh hR hfresh⟩
    by_contra hn
    rw [hh.isDir_dirOf hn hend] at hnot
    cases hnot
  rw [← hnew]
  exact hr.processAll_served hh hall he

/-! ## Runs that share -/

/-- a tree that is put among the repositories adds no repository but the one it is -/
theorem housed_put {fs : FileStore} {R : Location} {n : Name} {y : Node}
    (hR : fs.Leads .target shop.reposDir (.found R)) (hd : fs.root.view R = some .dir)
    (hlink : ∀ n target, fs.root.view (R ++ [n]) ≠ some (.link target)) (hfree : fs.root.view (R ++ [n]) = none)
    (hy : y.kind = .dir) :
    Housed shop (fs.put (R ++ [n]) y) ∧ ∀ e : ManifestEntry, (fs.put (R ++ [n]) y).isDir (shop.dirOf e) = true →
      fs.isDir (shop.dirOf e) = true ∨ e.dirName = n := by
  have hways := (FileStore.put_extends hd hfree y).toKeepsWays
  have hR' := hR.retrace hways (.inl (hways.dir R hd))
  have hother : ∀ m ≠ n, (fs.put (R ++ [n]) y).root.view (R ++ [m]) = fs.root.view (R ++ [m]) := by
    intro m hm
    rw [FileStore.put, Node.view_set hd, if_neg]
    intro hle
    obtain rfl : n = m := by simpa using hle.eq_of_length (by simp)
    exact hm rfl
  have hself : (fs.put (R ++ [n]) y).root.view (R ++ [n]) = some .dir := by
    rw [FileStore.put, Node.view_set hd, if_pos (List.prefix_refl _)]
    simp [hy]
  have hlink' : ∀ m target, (fs.put (R ++ [n]) y).root.view (R ++ [m]) ≠ some (.link target) := by
    intro m target hv
    by_cases hm : m = n
    · rw [hm, hself] at hv
      cases hv
    · exact hlink m target (hother m hm ▸ hv)
  have hh : Housed shop (fs.put (R ++ [n]) y) := ⟨R, hR', hways.dir R hd, hlink'⟩
  refine ⟨hh, fun e he => ?_⟩
  by_cases hn : Path.IsOrdinary e.dirName
  · obtain ⟨L, hL, hLd⟩ := FileStore.isDir_iff.1 he
    obtain ⟨R', k, hR'', -, hreach⟩ := FileStore.Leads.parent hn hR.nonempty hL
    obtain rfl := FileStore.Place.found.inj (hR''.unique hR')
    obtain ⟨hlen, hv⟩ := hreach.child_dir hLd (hlink' _)
    by_cases hm : e.dirName = n
    · exact .inr hm
    · rw [hother _ hm] at hv
      exact .inl (FileStore.isDir_iff.2 ⟨_, (hR.enters hd).child hn hlen hL.clean hL.short hv, hv⟩)
  · exact .inl (Housed.isDir_dirOf ⟨R, hR, hd, hlink⟩ hn he)

theorem isCloneInto_of_dirName {e : ManifestEntry} {n : Name} {text : String} (hname : e.dirName = n)
    (ht : (shop.reposDir.join ⟨n⟩).text? = some text) (url : String) :
    IsCloneInto (shop.dirOf e) (cloneCommand url text) := by
  refine ⟨url, text, ?_, rfl⟩
  rw [Workshop.dirOf_eq, hname]
  exact ht

theorem founder_orderly {hosted : List Hosted} (failing : List Nat) (hvalid : ∀ h ∈ hosted, h.Valid) :
    Orderly reposShop (founder hosted failing) := by
  have hafter : ∀ (w : World Nat) (c : Command), Housed reposShop w.files →
      Housed reposShop (w.after (founder hosted failing) c).files ∧
      (∀ p, w.files.isDir p = true → (w.after (founder hosted failing) c).files.isDir p = true) ∧
      ∀ e : ManifestEntry, (w.after (founder hosted failing) c).files.isDir (reposShop.dirOf e) = true →
        w.files.isDir (reposShop.dirOf e) = true ∨ IsCloneInto (reposShop.dirOf e) c := by
    intro w c hh
    rw [World.after]
    rcases founder_cases hosted failing c w.memory w.files with
      ⟨e, hrun⟩ | ⟨-, hrun⟩ | ⟨h, hmem, rfl, hcwd, hd, hfree, hrun⟩
    · rw [hrun]
      exact ⟨hh, fun _ h => h, fun _ h => .inl h⟩
    · rw [hrun]
      exact ⟨hh, fun _ h => h, fun _ h => .inl h⟩
    · rw [hrun]
      obtain ⟨R, hR, hRd, hlink⟩ := hh
      obtain rfl := FileStore.Place.found.inj (hR.unique (leads_repos hcwd hd))
      obtain ⟨hh', hadd⟩ := housed_put hR hRd hlink hfree (hvalid h hmem).kind
      exact ⟨hh', fun p => (FileStore.put_extends hd hfree h.tree).isDir,
        fun e he => (hadd e he).imp_right fun hname => isCloneInto_of_dirName hname (hvalid h hmem).text h.url⟩
  exact ⟨fun w c hh => (hafter w c hh).1, fun w c e hh => (hafter w c hh).2.1 _, fun w c e hh => (hafter w c hh).2.2 e⟩

/-- three repositories, of which the last one has the name of the first: the first two are fetched -/
theorem served_first_two :
    let entries : List ManifestEntry := [⟨"https://example.com/foo.git", "v1"⟩, ⟨"https://example.com/bar", "v2"⟩,
      ⟨"https://example.org/foo", "v3"⟩]
    let runner := founder [⟨"https://example.com/foo.git", "foo", mavenProject⟩,
      ⟨"https://example.com/bar", "bar", mavenProject⟩] []
    let w : World Nat := ⟨⟨.empty, []⟩, 0, []⟩
    let result := (run reposShop runner entries).exec w
    result.1 = .ok () ∧ (∀ e ∈ entries.take 2, Served reposShop e (result.2.since 0)) ∧
      ∀ e ∈ entries.drop 2, ¬ Served reposShop e (result.2.since 0) := by
  intro entries runner w result
  have hok : result.1 = .ok () := by decide +kernel
  have horderly : Orderly reposShop runner := founder_orderly [] (by decide +kernel)
  have hiff := served_iff_first reposShop runner horderly (by decide +kernel) (by decide +kernel) entries w result.2
    (by decide +kernel) (Prod.ext hok rfl)
  have htaken : ∀ e ∈ entries.take 2,
      Path.IsOrdinary e.dirName ∧ entries.find? (reposShop.dirOf · = reposShop.dirOf e) = some e := by decide +kernel
  have hleft : ∀ e ∈ entries.drop 2, entries.find? (reposShop.dirOf · = reposShop.dirOf e) ≠ some e := by decide +kernel
  exact ⟨hok, fun e he => (hiff e (List.mem_of_mem_take he)).2 (htaken e he),
    fun e he hserved => hleft e he ((hiff e (List.mem_of_mem_drop he)).1 hserved).2⟩

/-- **Two entries can be served by one working copy**: a run succeeds for two repositories on different hosts, of which
only the first is cloned and checked out. -/
theorem second_of_name_not_served :
    let first : ManifestEntry := ⟨"https://example.com/foo", "v1"⟩
    let second : ManifestEntry := ⟨"https://example.org/foo", "v2"⟩
    let runner := founder [⟨first.url, "foo", mavenProject⟩] []
    let w : World Nat := ⟨⟨.empty, []⟩, 0, []⟩
    let result := (run reposShop runner [first, second]).exec w
    Orderly reposShop runner ∧ w.files.pathExists reposShop.reposDir = false ∧ result.1 = .ok () ∧
      Served reposShop first result.2.issued ∧ ¬ Cloned reposShop second result.2.issued ∧
      ¬ CheckedOut reposShop second result.2.issued := by
  refine ⟨founder_orderly [] ?_, ?_⟩ <;> decide +kernel

end Repository

end Benchwork.Build
