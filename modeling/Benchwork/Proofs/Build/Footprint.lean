/-
What a call leaves behind.

Where commands do nothing to files but for a clone that creates its target (`CreatesTargets`), all that a call adds is
that target, and what the program itself writes at the root of the repository: the two markers, which are empty, and two
lines at the end of the ignore list, and those only when the repository was cloned and checked out in that very call
(`Wrote`). What was there before stays as it is, also when the call fails. The markers are followed through the stages
with a relation that is reflexive and transitive (`Marked`); each file that is made sure of keeps to it.
-/
import Benchwork.Proofs.Build.Markers

namespace Benchwork

/-- a directory was created at the end of a path, with a tree inside and with the directories above it -/
structure FileStore.Creates (fs : FileStore) (p : Path) (D : Location) (fs' : FileStore) : Prop where
  leads : fs'.Leads .target p (.found D)
  dir : fs'.root.view D = some .dir
  fresh : fs.root.view D = none
  change : ∀ l, fs'.root.view l ≠ fs.root.view l → fs.root.view l = none ∧
    (D <+: l ∨ fs'.root.view l = some .dir ∧ ∃ q : Path, q.bytes <+: p.bytes ∧ fs'.Leads .target q (.found l))

theorem FileStore.Creates.kept {fs fs' : FileStore} {p : Path} {D : Location} (h : fs.Creates p D fs') {l : Location}
    {k : Kind} (hl : fs.root.view l = some k) : fs'.root.view l = some k := by
  by_contra hne
  obtain ⟨hnone, -⟩ := h.change l (by rwa [hl])
  rw [hl] at hnone
  cases hnone

namespace Build.Repository

open Benchwork.Text Session

variable {σ : Type} {shop : Workshop} {runner : Runner σ} {dir : Path} {fs fs' fs'' : FileStore}

/-! ## Files at the root of a repository -/

def ignoreName : Name := Utf8.encode ".gitignore"

def ownNames : List Name := ignoreName :: markerNames

def Unlinked (dir : Path) (fs : FileStore) : Prop :=
  ∀ D, fs.Enters dir D → ∀ n ∈ ownNames, ∀ target, fs.root.view (D ++ [n]) ≠ some (.link target)

theorem Unlinked.keepsWays (h : Unlinked dir fs) (hw : fs'.KeepsWays fs) : Unlinked dir fs' :=
  fun D hD n hn target hv => h D (hD.retrace hw) n hn target (hw.link _ _ hv)

/-- what a file holds; nothing, if it is not there -/
def Holds (fs : FileStore) (l : Location) (content : List UInt8) : Prop :=
  fs.root.view l = some (.file content) ∨ fs.root.view l = none ∧ content = []

/-- writing a file at the root of a repository changes that file and nothing else -/
theorem edit_inside {name : String} {change : List UInt8 → List UInt8} (hown : Utf8.encode name ∈ ownNames)
    (hlink : Unlinked dir fs) (h : fs.edit (inside dir name) change = .ok fs') :
    ∃ D old, fs.Enters dir D ∧ Holds fs (D ++ [Utf8.encode name]) old ∧
      fs.Placed (D ++ [Utf8.encode name]) (.file (change old)) fs' := by
  have hname : Path.IsOrdinary (Utf8.encode name) := by
    have hall : ∀ n ∈ ownNames, Path.IsOrdinary n := by decide +kernel
    exact hall _ hown
  obtain ⟨r, c, -, hr, -, hplaced, hold⟩ := FileStore.edit_eq_ok h
  obtain ⟨D, k, hD, hreach⟩ := hr.above_name hname
  have hloc : r.loc = D ++ [Utf8.encode name] := by
    cases hreach with
    | enter _ _ hv hdone =>
      cases hdone
      rfl
    | file => rfl
    | free => rfl
    | stop hp => cases hp
    | follow _ _ hv => exact absurd hv (hlink D hD _ hown _)
  rw [hloc] at hplaced hold
  rcases hold with ⟨hnone, rfl⟩ | ⟨old, hfile, rfl⟩
  · exact ⟨D, [], hD, .inr ⟨hnone, rfl⟩, hplaced⟩
  · exact ⟨D, old, hD, .inl hfile, hplaced⟩

/-! ## Markers -/

/-- nothing was done but that markers were made, and these are empty -/
structure Marked (dir : Path) (fs fs' : FileStore) : Prop where
  ways : fs.KeepsWays fs'
  back : fs'.KeepsWays fs
  change : ∀ l, fs'.root.view l ≠ fs.root.view l → ∃ D, fs.Enters dir D ∧ (∃ m ∈ markerNames, l = D ++ [m]) ∧
    fs.root.view l = none ∧ fs'.root.view l = some (.file [])

theorem Marked.refl (dir : Path) (fs : FileStore) : Marked dir fs fs :=
  ⟨.refl fs, .refl fs, fun _ h => absurd rfl h⟩

theorem Marked.trans (h : Marked dir fs fs') (h' : Marked dir fs' fs'') : Marked dir fs fs'' := by
  refine ⟨h.ways.trans h'.ways, h'.back.trans h.back, fun l hl => ?_⟩
  by_cases hsame : fs'.root.view l = fs.root.view l
  · obtain ⟨D, hD, hm, hnone, hfile⟩ := h'.change l (by rwa [hsame])
    exact ⟨D, hD.retrace h.back, hm, by rwa [← hsame], hfile⟩
  · obtain ⟨D, hD, hm, hnone, hfile⟩ := h.change l hsame
    refine ⟨D, hD, hm, hnone, ?_⟩
    by_contra hne
    obtain ⟨-, -, -, hnone', -⟩ := h'.change l (by rwa [hfile])
    rw [hfile] at hnone'
    cases hnone'

theorem Marked.kept (h : Marked dir fs fs') {l : Location} {k : Kind} (hl : fs.root.view l = some k) :
    fs'.root.view l = some k := by
  by_contra hne
  obtain ⟨-, -, -, hnone, -⟩ := h.change l (by rwa [hl])
  rw [hl] at hnone
  cases hnone

theorem marked_touch {marker : String} (hmarker : Utf8.encode marker ∈ markerNames) (hlink : Unlinked dir fs)
    (h : fs.touch (inside dir marker) = .ok fs') : Marked dir fs fs' := by
  obtain ⟨D, old, hD, hold, hplaced⟩ := edit_inside (List.mem_cons_of_mem _ hmarker) hlink h
  refine ⟨(FileStore.edit_extends h).toKeepsWays, FileStore.edit_keepsWays h, fun l hl => ?_⟩
  have hloc : l = D ++ [Utf8.encode marker] := by
    by_contra hne
    exact hl (hplaced.view_of_ne hne)
  subst hloc
  have hself := hplaced.view_self
  rw [List.append_nil] at hself
  rcases hold with hfile | ⟨hnone, rfl⟩
  · exact absurd (hself.trans hfile.symm) hl
  · exact ⟨D, hD, ⟨_, hmarker, rfl⟩, hnone, hself⟩

/-! ## Commands -/

/-- commands leave files alone, except that a clone which succeeds creates its target; one into a path that is not empty
may also do nothing -/
structure CreatesTargets (shop : Workshop) (runner : Runner σ) : Prop where
  clone : ∀ (w : World σ) (e : ManifestEntry) (text : String), (shop.dirOf e).text? = some text →
    w.files.pathExists (shop.dirOf e) = false → w.answer runner (cloneCommand e.url text) = .ok () →
    (∃ D, w.files.Creates (shop.dirOf e) D (w.after runner (cloneCommand e.url text)).files) ∨
      (shop.dirOf e).bytes ≠ [] ∧ (w.after runner (cloneCommand e.url text)).files = w.files
  other : ∀ (w : World σ) (c : Command),
    (∀ e text, (shop.dirOf e).text? = some text → c = cloneCommand e.url text → w.answer runner c ≠ .ok ()) →
    (w.after runner c).files = w.files

theorem CreatesTargets.files_after_step (hr : CreatesTargets shop runner) {libs : Path} {c : Command}
    (hc : IsStep shop libs c) (w : World σ) : (w.after runner c).files = w.files := by
  refine hr.other w c fun e text _ heq => ?_
  subst heq
  exact absurd rfl hc.program_ne_git

theorem CreatesTargets.files_after_checkout (hr : CreatesTargets shop runner) (w : World σ) (revision : String)
    (dir : Path) : (w.after runner (checkoutCommand revision dir)).files = w.files :=
  hr.other w _ fun _ _ _ heq => absurd heq.symm (cloneCommand_ne_checkoutCommand _ _ _ _)

theorem CreatesTargets.files_after_failed (hr : CreatesTargets shop runner) {w : World σ} {c : Command}
    {err : BuildError} (h : w.answer runner c = .error err) : (w.after runner c).files = w.files :=
  hr.other w c fun _ _ _ _ hok => by rw [h] at hok; cases hok

/-- build steps and markers leave nothing but markers behind -/
theorem moves_marked (hr : CreatesTargets shop runner) {libs : Path} {system : BuildSystem} {n : Nat} {w w' : World σ}
    (h : Moves runner (IsStep shop libs) (Marks shop dir libs system n) w w') (hlink : Unlinked dir w.files) :
    Marked dir w.files w'.files := by
  induction h with
  | refl => exact .refl dir _
  | issue _ hc ih =>
    rw [hr.files_after_step hc]
    exact ih
  | touch _ hmarks hf ih =>
    obtain ⟨marker, rfl, hmarker, -⟩ := vouched_of_marks hmarks
    exact ih.trans (marked_touch hmarker (hlink.keepsWays ih.back) hf)

/-! ## Fetching -/

/-- the files when the clone of a call is over, if it has one -/
def afterClone (shop : Workshop) (runner : Runner σ) (e : ManifestEntry) (w : World σ) : FileStore :=
  match (shop.dirOf e).text? with
  | none => w.files
  | some text =>
    if w.files.pathExists (shop.dirOf e) then w.files else (w.after runner (cloneCommand e.url text)).files

/-- what a call has written at the root `D` of a repository, when the clone had left the files `fs` -/
inductive Wrote (shop : Workshop) (e : ManifestEntry) (log : List Issued) (D : Location) (fs fs' : FileStore) :
    Location → Prop
  | marker {m : Name} : m ∈ markerNames → fs.root.view (D ++ [m]) = none →
      fs'.root.view (D ++ [m]) = some (.file []) → Wrote shop e log D fs fs' (D ++ [m])
  | ignore {old : List UInt8} : Cloned shop e log → CheckedOut shop e log → Holds fs (D ++ [ignoreName]) old →
      fs'.root.view (D ++ [ignoreName]) = some (.file (old ++ ignoreLines)) →
      Wrote shop e log D fs fs' (D ++ [ignoreName])

/-- what getting at a repository did, with `mid` for the files when the clone was over -/
inductive Got (shop : Workshop) (e : ManifestEntry) (w : World σ) (mid : FileStore) (log : List Issued)
    (fs' : FileStore) : Prop
  /-- nothing was added -/
  | nothing : mid = w.files → fs' = mid → Got shop e w mid log fs'
  /-- the repository was created -/
  | created {D : Location} : Cloned shop e log → w.files.Creates (shop.dirOf e) D mid → fs' = mid →
      Got shop e w mid log fs'
  /-- the repository was created and the ignore list was written -/
  | ignored {D : Location} {old : List UInt8} : Cloned shop e log → CheckedOut shop e log →
      w.files.Creates (shop.dirOf e) D mid → Holds mid (D ++ [ignoreName]) old →
      mid.Placed (D ++ [ignoreName]) (.file (old ++ ignoreLines)) fs' → mid.KeepsWays fs' → fs'.KeepsWays mid →
      Got shop e w mid log fs'

theorem since_after {w w₀ : World σ} (h : w₀.issued.length ≤ w.issued.length) (c : Command) :
    (w.after runner c).since w₀.issued.length = w.since w₀.issued.length ++ [⟨c, w.answer runner c⟩] := by
  rw [World.since, World.issued_after, List.drop_append_of_le_length h, World.since]

theorem got_fetched (hr : CreatesTargets shop runner) {e : ManifestEntry} {text : String} {w w' : World σ}
    {r : Except BuildError Unit} (ht : (shop.dirOf e).text? = some text)
    (hp : w.files.pathExists (shop.dirOf e) = false)
    (hlink : Unlinked (shop.dirOf e) (w.after runner (cloneCommand e.url text)).files)
    (h : Fetched runner e (shop.dirOf e) text w r w') :
    Got shop e w (w.after runner (cloneCommand e.url text)).files (w'.since w.issued.length) w'.files := by
  set clone := cloneCommand e.url text with hclone
  set checkout := checkoutCommand e.revision (shop.dirOf e) with hcheckout
  have hlog : ((w.after runner clone).after runner checkout).since w.issued.length =
      [⟨clone, w.answer runner clone⟩, ⟨checkout, (w.after runner clone).answer runner checkout⟩] := by
    rw [since_after (by simp), since_after le_rfl, World.since, List.drop_length]
    rfl
  have hcloned : w.answer runner clone = .ok () →
      Cloned shop e (((w.after runner clone).after runner checkout).since w.issued.length) := by
    intro hok
    rw [hlog, hok]
    exact ⟨text, ht, _, List.mem_cons_self, rfl, rfl⟩
  have hsame : ((w.after runner clone).after runner checkout).files = (w.after runner clone).files :=
    hr.files_after_checkout _ _ _
  -- nothing but the clone can have added anything
  have hgot : w.answer runner clone = .ok () → Got shop e w (w.after runner clone).files
      (((w.after runner clone).after runner checkout).since w.issued.length)
      ((w.after runner clone).after runner checkout).files := by
    intro hok
    rcases hr.clone w e text ht hp hok with ⟨D, hcreates⟩ | ⟨-, hnothing⟩
    · exact .created (hcloned hok) hcreates hsame
    · exact .nothing hnothing hsame
  cases h with
  | cloneFailed herr => exact .nothing (hr.files_after_failed herr) rfl
  | checkoutFailed hok hw₁ =>
    subst hw₁
    exact hgot hok
  | ignoreFailed hok hw₁ _ hw₂ =>
    subst hw₁ hw₂
    exact hgot hok
  | done hok hw₁ hok' hw₂ hignore =>
    subst hw₁ hw₂
    rw [hsame] at hignore
    rcases hr.clone w e text ht hp hok with ⟨D, hcreates⟩ | ⟨hne, hnothing⟩
    · obtain ⟨D', old, hD', hold, hplaced⟩ := edit_inside List.mem_cons_self hlink hignore
      obtain rfl := (hcreates.leads.enters hcreates.dir).unique hD'
      refine .ignored (hcloned hok) ?_ hcreates hold hplaced (FileStore.edit_extends hignore).toKeepsWays
        (FileStore.edit_keepsWays hignore)
      change CheckedOut shop e (((w.after runner clone).after runner checkout).since w.issued.length)
      rw [hlog, hok']
      exact ⟨_, List.mem_cons_of_mem _ List.mem_cons_self, rfl, rfl⟩
    · -- the ignore list cannot be written in a directory that is not there
      obtain ⟨r, -, -, hleads, -⟩ := FileStore.edit_eq_ok hignore
      obtain ⟨L, -, hL, -⟩ := FileStore.Leads.parent (by decide +kernel) hne hleads
      rw [hnothing] at hL
      rw [FileStore.pathExists_iff.2 ⟨L, hL⟩] at hp
      cases hp

theorem got_arrives (hr : CreatesTargets shop runner) {e : ManifestEntry} {w w' : World σ} {r : Except BuildError Unit}
    (hlink : Unlinked (shop.dirOf e) (afterClone shop runner e w)) (h : Arrives shop runner e w r w') :
    Got shop e w (afterClone shop runner e w) (w'.since w.issued.length) w'.files := by
  rw [afterClone] at hlink ⊢
  cases h with
  | notText ht =>
    rw [ht] at hlink ⊢
    exact .nothing rfl rfl
  | there ht hp =>
    rw [ht] at hlink ⊢
    rw [hp] at hlink ⊢
    exact .nothing rfl rfl
  | @fetch text _ _ ht hp hfetched =>
    rw [ht] at hlink ⊢
    rw [hp] at hlink ⊢
    dsimp only at hlink ⊢
    rw [if_neg (by simp)] at hlink ⊢
    exact got_fetched hr ht hp hlink hfetched

/-! ## The whole call -/

theorem Got.mono {e : ManifestEntry} {w : World σ} {mid : FileStore} {log log' : List Issued}
    (h : Got shop e w mid log fs) (hsub : log ⊆ log') : Got shop e w mid log' fs := by
  have hsucceeded : ∀ {c : Command}, Succeeded c log → Succeeded c log' :=
    fun ⟨i, hi, hc⟩ => ⟨i, hsub hi, hc⟩
  have hcloned : Cloned shop e log → Cloned shop e log' := fun ⟨text, ht, hc⟩ => ⟨text, ht, hsucceeded hc⟩
  cases h with
  | nothing hmid hsame => exact .nothing hmid hsame
  | created hc hcreates hsame => exact .created (hcloned hc) hcreates hsame
  | ignored hc hco hcreates hold hplaced hways hback =>
    exact .ignored (hcloned hc) (hsucceeded hco) hcreates hold hplaced hways hback

theorem Got.back {e : ManifestEntry} {w : World σ} {mid : FileStore} {log : List Issued}
    (h : Got shop e w mid log fs) : fs.KeepsWays mid := by
  cases h with
  | nothing _ hsame => rw [hsame]; exact .refl _
  | created _ _ hsame => rw [hsame]; exact .refl _
  | ignored _ _ _ _ _ _ hback => exact hback

/-- a call gets at the repository, and then nothing but markers is left behind -/
theorem got_process (hr : CreatesTargets shop runner) {e : ManifestEntry} {w w' : World σ}
    {r : Except BuildError Outcome} (hlink : Unlinked (shop.dirOf e) (afterClone shop runner e w))
    (h : (process shop runner e).exec w = (r, w')) :
    ∃ fs, Got shop e w (afterClone shop runner e w) (w'.since w.issued.length) fs ∧
      Marked (shop.dirOf e) fs w'.files := by
  cases processes_process h with
  | notArrived ha => exact ⟨_, got_arrives hr hlink ha.arrives, .refl _ _⟩
  | passed ha => exact ⟨_, got_arrives hr hlink ha.arrives, .refl _ _⟩
  | undetected ha => exact ⟨_, got_arrives hr hlink ha.arrives, .refl _ _⟩
  | staged ha _ _ hmoves =>
    have hgot := got_arrives hr hlink ha.arrives
    exact ⟨_, hgot.mono fun _ hi => hmoves.mem_since hi, moves_marked hr hmoves (hlink.keepsWays hgot.back)⟩

section Footprint

variable {e : ManifestEntry} {w : World σ} {mid : FileStore} {log : List Issued}

theorem Got.created_or_same (h : Got shop e w mid log fs) :
    mid = w.files ∨ Cloned shop e log ∧ ∃ D, w.files.Creates (shop.dirOf e) D mid := by
  cases h with
  | nothing hmid => exact .inl hmid
  | @created D hc hcreates => exact .inr ⟨hc, D, hcreates⟩
  | @ignored D _ hc _ hcreates => exact .inr ⟨hc, D, hcreates⟩

/-- the call wrote the ignore list, if anything, before there were markers -/
theorem Got.wrote (h : Got shop e w mid log fs) (hmarked : Marked (shop.dirOf e) fs fs') {l : Location}
    (hl : fs'.root.view l ≠ mid.root.view l) : ∃ D, mid.Enters (shop.dirOf e) D ∧ Wrote shop e log D mid fs' l := by
  have hmarker : fs.KeepsWays mid → fs.root.view l = mid.root.view l →
      ∃ D, mid.Enters (shop.dirOf e) D ∧ Wrote shop e log D mid fs' l := by
    intro hback hsame
    obtain ⟨D, hD, ⟨m, hm, rfl⟩, hnone, hfile⟩ := hmarked.change l (by rwa [hsame])
    exact ⟨D, hD.retrace hback, .marker hm (hsame.symm.trans hnone) hfile⟩
  cases h with
  | nothing _ hsame => exact hmarker (by rw [hsame]; exact .refl _) (by rw [hsame])
  | created _ _ hsame => exact hmarker (by rw [hsame]; exact .refl _) (by rw [hsame])
  | @ignored D old hc hco hcreates hold hplaced hways hback =>
    by_cases hloc : l = D ++ [ignoreName]
    · subst hloc
      exact ⟨D, hcreates.leads.enters hcreates.dir, .ignore hc hco hold (hmarked.kept hplaced.view_self)⟩
    · exact hmarker hback (hplaced.view_of_ne hloc)

/-- what was there before is not written to -/
theorem Got.kept (h : Got shop e w mid log fs) (hmarked : Marked (shop.dirOf e) fs fs') {l : Location} {k : Kind}
    (hl : w.files.root.view l = some k) : fs'.root.view l = some k := by
  refine hmarked.kept ?_
  cases h with
  | nothing hmid hsame => rw [hsame, hmid, hl]
  | created _ hcreates hsame => rw [hsame, hcreates.kept hl]
  | @ignored D _ _ _ hcreates _ hplaced =>
    rw [hplaced.view_of_ne, hcreates.kept hl]
    rintro rfl
    rw [Node.view_append_eq_none_of_none hcreates.fresh] at hl
    cases hl

end Footprint

/-- **A call leaves little behind**, whether it succeeds or not. Let commands do nothing to files but for clones that
create their targets, and let the files that the program itself writes be no links. Then all that was there is there as
it was, and every path leads where it led. What is new was created by a clone of this call, or was written at the root of
the repository: markers, which are empty, and lines at the end of the ignore list when the call has cloned the repository
and checked it out. -/
theorem footprint_limited (shop : Workshop) (runner : Runner σ) (hr : CreatesTargets shop runner) (e : ManifestEntry)
    (w : World σ) (hlink : Unlinked (shop.dirOf e) (afterClone shop runner e w)) :
    let mid := afterClone shop runner e w
    let w' := ((process shop runner e).exec w).2
    let log := w'.since w.issued.length
    (∀ l k, w.files.root.view l = some k → w'.files.root.view l = some k) ∧
    (∀ p L, w.files.Leads .target p (.found L) → w'.files.Leads .target p (.found L)) ∧
    (mid = w.files ∨ Cloned shop e log ∧ ∃ D, w.files.Creates (shop.dirOf e) D mid) ∧
    ∀ l, w'.files.root.view l ≠ mid.root.view l →
      ∃ D, mid.Enters (shop.dirOf e) D ∧ Wrote shop e log D mid w'.files l := by
  intro mid w' log
  have hexec : (process shop runner e).exec w = (_, w') := Prod.mk.eta.symm
  obtain ⟨fs, hgot, hmarked⟩ := got_process hr hlink hexec
  have hkept : ∀ l k, w.files.root.view l = some k → w'.files.root.view l = some k := fun l k => hgot.kept hmarked
  refine ⟨hkept, fun p L hL => ?_, hgot.created_or_same, fun l => hgot.wrote hmarked⟩
  have hcwd : w'.files.cwd = w.files.cwd := (processes_process hexec).cwd
  refine hL.retrace ⟨hcwd, fun l => hkept l _, fun l t => hkept l _⟩ ?_
  exact hL.kind.imp (hkept L _) fun ⟨content, hc⟩ => ⟨content, hkept L _ hc⟩

/-! ## A call that fetches -/

theorem Hosted.Valid.creates {h : Hosted} (hvalid : h.Valid) {fs : FileStore} (hcwd : fs.cwd = [])
    (hd : fs.root.view [reposName] = some .dir) (hfree : fs.root.view [reposName, h.dirName] = none) :
    fs.Creates h.dir [reposName, h.dirName] (fs.put [reposName, h.dirName] h.tree) := by
  obtain ⟨hleads, hself⟩ := hvalid.leads_put hcwd hd hfree
  refine ⟨hleads, hself, hfree, fun l hl => ?_⟩
  have hbelow : [reposName, h.dirName] <+: l := by
    by_contra hnot
    exact hl ((Node.view_set hd h.dirName h.tree l).trans (if_neg hnot))
  obtain ⟨t, rfl⟩ := hbelow
  exact ⟨Node.view_append_eq_none_of_none hfree t, .inl (List.prefix_append _ _)⟩

theorem founder_createsTargets {hosted : List Hosted} (failing : List Nat) (hvalid : ∀ h ∈ hosted, h.Valid)
    (hurl : ∀ h ∈ hosted, reposShop.dirOf ⟨h.url, ""⟩ = h.dir) :
    CreatesTargets reposShop (founder hosted failing) := by
  constructor
  · intro w e text ht _ hok
    have hne : (reposShop.dirOf e).bytes ≠ [] := by
      rw [Workshop.dirOf_eq]
      exact Path.join_ne_nil (Path.isAbsolute_of_not_mem e.slash_not_mem_dirName) (.inl (by decide +kernel))
    rw [World.answer] at hok
    rw [World.after]
    rcases founder_cases hosted failing (cloneCommand e.url text) w.memory w.files with
      ⟨err, hrun⟩ | ⟨-, hrun⟩ | ⟨h, hmem, hcloning, hcwd, hd, hfree, hrun⟩
    · rw [hrun] at hok
      cases hok
    · rw [hrun]
      exact .inr ⟨hne, rfl⟩
    · rw [hrun, dir_eq_of_cloneCommand hcloning ht (hvalid h hmem).text]
      exact .inl ⟨_, (hvalid h hmem).creates hcwd hd hfree⟩
  · intro w c hc
    rw [World.after]
    rcases founder_cases hosted failing c w.memory w.files with
      ⟨err, hrun⟩ | ⟨-, hrun⟩ | ⟨h, hmem, hcloning, -, -, -, hrun⟩
    · rw [hrun]
    · rw [hrun]
    · refine absurd ?_ (hc ⟨h.url, ""⟩ ("repos/" ++ h.name) (by rw [hurl h hmem]; exact (hvalid h hmem).text) hcloning)
      rw [World.answer, hrun]

/-- a call that clones, compiles and then fails has added the clone, the ignore list and one marker -/
theorem footprint_limited_failing :
    let e : ManifestEntry := ⟨"https://example.com/foo", "v1"⟩
    let runner := founder [⟨e.url, "foo", mavenProject⟩] [3]
    let w : World Nat := ⟨⟨.dir [(reposName, .empty)], []⟩, 0, []⟩
    let mid := afterClone reposShop runner e w
    let w' := ((process reposShop runner e).exec w).2
    let foo : Location := [reposName, Utf8.encode "foo"]
    w'.issued.length = 4 ∧ w'.files.root.view (foo ++ [Utf8.encode libsMarker]) = none ∧
      (∃ D, w.files.Creates (reposShop.dirOf e) D mid) ∧
      (∃ D, mid.Enters (reposShop.dirOf e) D ∧ Wrote reposShop e w'.issued D mid w'.files (foo ++ [ignoreName])) ∧
      ∃ D, mid.Enters (reposShop.dirOf e) D ∧
        Wrote reposShop e w'.issued D mid w'.files (foo ++ [Utf8.encode builtMarker]) := by
  intro e runner w mid w' foo
  have hcreates : CreatesTargets reposShop runner :=
    founder_createsTargets [3] (by decide +kernel) (by decide +kernel)
  have hclean : Clean mid.root := by decide +kernel
  have hlink : Unlinked (reposShop.dirOf e) mid := fun D _ n _ target hv => (hclean.view hv).1 target rfl
  have hfailed : w'.issued.length = 4 ∧ w'.files.root.view (foo ++ [Utf8.encode libsMarker]) = none := by decide +kernel
  have hfound : mid.root.view foo ≠ w.files.root.view foo := by decide +kernel
  have hignore : w'.files.root.view (foo ++ [ignoreName]) ≠ mid.root.view (foo ++ [ignoreName]) := by decide +kernel
  have hbuilt : w'.files.root.view (foo ++ [Utf8.encode builtMarker]) ≠
      mid.root.view (foo ++ [Utf8.encode builtMarker]) := by
    decide +kernel
  obtain ⟨-, -, hcloned, hwrote⟩ := footprint_limited reposShop runner hcreates e w hlink
  refine ⟨hfailed.1, hfailed.2, ?_, hwrote _ hignore, hwrote _ hbuilt⟩
  rcases hcloned with hsame | ⟨-, hD⟩
  · exact absurd (by rw [← hsame]) hfound
  · exact hD

end Build.Repository

end Benchwork
