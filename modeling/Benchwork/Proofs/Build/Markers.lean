/-
What the markers stand for.

Over any sequence of calls, with answers in any order, a marker is there only if a visit of the repository earned it.
For `.built`, the visit detected a build system and its compile line succeeded next to every descriptor. For `.libs`,
the lines that put the libraries in place did. All visits of a repository with a name of its own detect the same build
system, so both markers speak of one. The argument is an invariant of stores (`Keeping`): every node with the name of a
marker is accounted for, and every repository that was visited is still built the same way. Each change keeps it
(`Keeping.quiet`), except for a marker that is made, which adds what it is accounted for by (`Keeping.stages`).

Files are changed by the visits themselves and by clones. A clone makes directories on the way to its target and fills
the target with what is neither a link nor called like a marker (`Populates`). The markers are told by their names alone:
a repository that is itself called `.built` is taken for the marker of the directory that it is in.
-/
import Benchwork.Proofs.Build.Detection
import Benchwork.Proofs.Build.Founder

namespace Benchwork.Build.Repository

open Benchwork.Text Session

variable {σ : Type}

/-! ## Calls and visits -/

inductive Call where
  | process (entry : ManifestEntry)
  | run (entries : List ManifestEntry)

def Call.entries : Call → List ManifestEntry
  | .process e => [e]
  | .run es => es

/-- an entry and the world in which it is processed -/
structure Visit (σ : Type) where
  entry : ManifestEntry
  before : World σ

section Calls

variable (shop : Workshop) (runner : Runner σ)

/-- the visits of entries one after another, up to the first that fails -/
def visitsInOrder : List ManifestEntry → World σ → List (Visit σ)
  | [], _ => []
  | e :: es, w =>
    ⟨e, w⟩ ::
      match (process shop runner e).exec w with
      | (.ok _, w') => visitsInOrder es w'
      | (.error _, _) => []

def Call.visits (w : World σ) : Call → List (Visit σ)
  | .process e => [⟨e, w⟩]
  | .run es =>
    match (Session.makeDirs shop.reposDir).exec w with
    | (.ok (), w') => visitsInOrder shop runner es w'
    | (.error _, _) => []

def Call.after (w : World σ) : Call → World σ
  | .process e => ((Repository.process shop runner e).exec w).2
  | .run es => ((Repository.run shop runner es).exec w).2

def afterAll (calls : List Call) (w : World σ) : World σ := calls.foldl (Call.after shop runner) w

def visitsOf : List Call → World σ → List (Visit σ)
  | [], _ => []
  | c :: calls, w => c.visits shop runner w ++ visitsOf calls (c.after shop runner w)

def Visit.log (v : Visit σ) : List Issued :=
  ((process shop runner v.entry).exec v.before).2.since v.before.issued.length

/-- the visit got at the repository, did not pass it over, and detected how it is built -/
def Visit.Detected (v : Visit σ) (system : BuildSystem) : Prop :=
  ∃ w, (arrive shop runner v.entry).exec v.before = (.ok (shop.dirOf v.entry), w) ∧
    ¬ (w.files.pathExists (inside (shop.dirOf v.entry) builtMarker) = true ∧
      w.files.pathExists (inside (shop.dirOf v.entry) libsMarker) = true) ∧
    BuildSystem.detect w.files (shop.dirOf v.entry) = .ok system

end Calls

/-! ## Clones -/

variable {shop : Workshop} {runner : Runner σ}

def markerNames : List Name := [Utf8.encode builtMarker, Utf8.encode libsMarker]

/-- a clone into `dir`: what is new is a directory on the way to the target, the target alone if the directory of
repositories was there; or it is inside the target, no link and not called like a marker -/
structure Populates (shop : Workshop) (dir : Path) (fs fs' : FileStore) : Prop where
  change : ∀ l, fs'.root.view l ≠ fs.root.view l →
    (fs.root.view l = none ∧ fs'.root.view l = some .dir ∧ (∃ n ∈ FileStore.segmentsOf dir, l.getLast? = some n) ∧
      ∀ R, fs.Enters shop.reposDir R → l = fs.place dir) ∨
    (fs'.isDir dir = true ∧ fs.place dir <+: l ∧ l ≠ fs.place dir ∧
      (∀ target, fs'.root.view l ≠ some (.link target)) ∧ ∀ m ∈ markerNames, l.getLast? ≠ some m)
  same : ∀ l, (∀ t, fs'.root.view (l ++ t) = fs.root.view (l ++ t)) → fs'.root.get? l = fs.root.get? l

/-- clones stay in their targets, and nothing else touches files -/
structure ClonesInside (shop : Workshop) (runner : Runner σ) : Prop where
  clone : ∀ (w : World σ) (e : ManifestEntry) (text : String), w.files.Plain → (shop.dirOf e).text? = some text →
    w.files.pathExists (shop.dirOf e) = false →
    Populates shop (shop.dirOf e) w.files (w.after runner (cloneCommand e.url text)).files
  other : ∀ (w : World σ) (c : Command), (∀ e text, (shop.dirOf e).text? = some text → c ≠ cloneCommand e.url text) →
    (w.after runner c).files = w.files

/-! ## Changes that make no marker -/

/-- the repository is there, and this is how it is built -/
def BuiltBy (fs : FileStore) (dir : Path) (system : BuildSystem) : Prop :=
  fs.Leads .target dir (.found (fs.place dir)) ∧ ∃ x, fs.root.get? (fs.place dir) = some x ∧ systemOf dir x = system

/-- a change that keeps repositories with a name as they are built, and brings in no link -/
structure Quiet (shop : Workshop) (fs fs' : FileStore) : Prop where
  cwd : fs'.cwd = fs.cwd
  plain : fs'.Plain
  steady : ∀ (e : ManifestEntry) (system : BuildSystem), Path.IsOrdinary e.dirName →
    BuiltBy fs (shop.dirOf e) system → BuiltBy fs' (shop.dirOf e) system

/-- nothing new has the name of a marker -/
def Unmarked (fs fs' : FileStore) : Prop :=
  ∀ l, ∀ m ∈ markerNames, l.getLast? = some m → fs'.root.view l ≠ none → fs.root.view l ≠ none

theorem segmentsOf_dirOf {m : Name} {e : ManifestEntry} (h : m ∈ FileStore.segmentsOf (shop.dirOf e)) :
    m ∈ FileStore.segmentsOf shop.reposDir ∨ m = e.dirName := by
  have hslash := e.slash_not_mem_dirName
  rw [Workshop.dirOf_eq, FileStore.segmentsOf_join (Path.isAbsolute_of_not_mem hslash)] at h
  refine (List.mem_append.1 h).imp_right fun h => ?_
  by_cases hne : e.dirName = []
  · rw [hne, FileStore.segmentsOf_nil] at h
    cases h
  · rw [FileStore.segmentsOf_of_not_mem hslash hne] at h
    exact List.mem_singleton.1 h

theorem place_dirOf {e : ManifestEntry} (hn : Path.IsOrdinary e.dirName) (fs : FileStore) :
    fs.place (shop.dirOf e) = fs.place shop.reposDir ++ [e.dirName] :=
  FileStore.place_join_ordinary hn fs

theorem Populates.plain {dir : Path} {fs fs' : FileStore} (h : Populates shop dir fs fs') (hfs : fs.Plain) :
    fs'.Plain := by
  intro l target hl
  by_cases hsame : fs'.root.view l = fs.root.view l
  · exact hfs l target (hsame ▸ hl)
  · rcases h.change l hsame with ⟨-, hd, -⟩ | ⟨-, -, -, hlink, -⟩
    · rw [hd] at hl
      cases hl
    · exact hlink target hl

theorem Populates.unmarked {dir : Path} {fs fs' : FileStore} (h : Populates shop dir fs fs')
    (hfree : ∀ m ∈ markerNames, m ∉ FileStore.segmentsOf dir) : Unmarked fs fs' := by
  intro l m hm hlast hl
  by_cases hsame : fs'.root.view l = fs.root.view l
  · rwa [hsame] at hl
  · rcases h.change l hsame with ⟨-, -, ⟨n, hn, hlast'⟩, -⟩ | ⟨-, -, -, -, hname⟩
    · obtain rfl : m = n := Option.some.inj (hlast.symm.trans hlast')
      exact absurd hn (hfree m hm)
    · exact absurd hlast (hname m hm)

/-- among repositories, a clone changes nothing but the place of its target, where there was nothing -/
theorem Populates.inside_target {f : ManifestEntry} {fs fs' : FileStore} (h : Populates shop (shop.dirOf f) fs fs')
    (hfs : fs.Plain) (hnew : fs.pathExists (shop.dirOf f) = false) {R : Location} (hR : fs.Enters shop.reposDir R)
    {l : Location} (hl : fs'.root.view l ≠ fs.root.view l) : R ++ [f.dirName] <+: l ∧ fs.root.view l = none := by
  have habsent : ∀ L, ¬ fs.Leads .target (shop.dirOf f) (.found L) := by
    intro L hL
    rw [FileStore.pathExists_iff.2 ⟨L, hL⟩] at hnew
    cases hnew
  by_cases hn : Path.IsOrdinary f.dirName
  · have hplace : fs.place (shop.dirOf f) = R ++ [f.dirName] := by rw [place_dirOf hn, ← hR.eq_place hfs]
    rcases h.change l hl with ⟨hnone, -, -, htarget⟩ | ⟨hd, hbelow, hne, -⟩
    · rw [htarget R hR, hplace] at hnone ⊢
      exact ⟨List.prefix_refl _, hnone⟩
    · rw [hplace] at hbelow hne
      refine ⟨hbelow, ?_⟩
      obtain ⟨t, rfl⟩ := hbelow
      refine Node.view_append_eq_none (fun hview => ?_) (by simpa using hne)
      -- had there been a directory, the path would have led to it
      obtain ⟨L, hL, hLd⟩ := FileStore.isDir_iff.1 hd
      obtain ⟨R', k, -, hreach⟩ := hL.above_name hn
      obtain ⟨hlen, -⟩ := hreach.child_dir hLd fun target => h.plain hfs _ target
      exact habsent _ (hR.child hn hlen hL.clean hL.short hview)
  · exfalso
    have hslash := f.slash_not_mem_dirName
    rcases h.change l hl with ⟨hnone, -, -, htarget⟩ | ⟨hd, -⟩
    · rw [htarget R hR, Workshop.dirOf_eq, hR.view_place_join hfs hslash hn] at hnone
      cases hnone
    · obtain ⟨L, hL, -⟩ := FileStore.isDir_iff.1 hd
      obtain ⟨L', hL', -⟩ := FileStore.isDir_iff.1 (hR.stay hslash hn hL.clean hL.nonempty hL.short)
      exact habsent L' hL'

theorem Populates.quiet {f : ManifestEntry} {fs fs' : FileStore} (h : Populates shop (shop.dirOf f) fs fs')
    (hcwd : fs'.cwd = fs.cwd) (hfs : fs.Plain) (hnew : fs.pathExists (shop.dirOf f) = false) : Quiet shop fs fs' := by
  refine ⟨hcwd, h.plain hfs, fun e system hn hbuilt => ?_⟩
  obtain ⟨hL, x, hx, hsystem⟩ := hbuilt
  obtain ⟨R, k, hR, -⟩ := hL.above_name hn
  have hplace : fs.place (shop.dirOf e) = R ++ [e.dirName] := by rw [place_dirOf hn, ← hR.eq_place hfs]
  have hinside : ∀ l, fs'.root.view l ≠ fs.root.view l → R ++ [f.dirName] <+: l ∧ fs.root.view l = none :=
    fun l => h.inside_target hfs hnew hR
  -- the target is another repository, for this one is there already
  have hother : f.dirName ≠ e.dirName := by
    intro heq
    have hdir : shop.dirOf f = shop.dirOf e := by rw [Workshop.dirOf_eq, Workshop.dirOf_eq, heq]
    rw [hdir, FileStore.pathExists_iff.2 ⟨_, hL⟩] at hnew
    cases hnew
  have hsame : ∀ t, fs'.root.view (fs.place (shop.dirOf e) ++ t) = fs.root.view (fs.place (shop.dirOf e) ++ t) := by
    intro t
    by_contra hne
    obtain ⟨⟨s, hs⟩, -⟩ := hinside _ hne
    rw [hplace, List.append_assoc, List.append_assoc] at hs
    exact hother (List.cons.inj (List.append_cancel_left hs)).1
  have hways : fs.KeepsWays fs' := by
    refine ⟨hcwd, fun l hl => ?_, fun l target hl => absurd hl (hfs l target)⟩
    by_contra hne
    obtain ⟨-, hnone⟩ := hinside l fun heq => hne (heq.trans hl)
    rw [hnone] at hl
    cases hl
  have hthere := hsame []
  rw [List.append_nil] at hthere
  have hL' := hL.retrace hways (by rw [FileStore.Place.loc, hthere]; exact hL.kind)
  rw [BuiltBy, FileStore.place_congr hcwd]
  exact ⟨hL', x, (h.same _ hsame).trans hx, hsystem⟩

theorem length_place_dirOf_le (e : ManifestEntry) (fs : FileStore) :
    (fs.place (shop.dirOf e)).length ≤ (fs.place shop.reposDir).length + 1 := by
  by_cases hn : Path.IsOrdinary e.dirName
  · rw [place_dirOf hn, List.length_append, List.length_singleton]
  · exact (FileStore.length_place_join_le e.slash_not_mem_dirName hn fs).trans (Nat.le_succ _)

theorem place_inside {dir : Path} {name : String} (hname : Path.IsOrdinary (Utf8.encode name)) (fs : FileStore) :
    fs.place (inside dir name) = fs.place dir ++ [Utf8.encode name] :=
  FileStore.place_join_ordinary hname fs

theorem getLast?_place_inside {dir : Path} {name : String} (hname : Path.IsOrdinary (Utf8.encode name))
    (fs : FileStore) : (fs.place (inside dir name)).getLast? = some (Utf8.encode name) := by
  rw [place_inside hname, List.getLast?_append]
  rfl

/-- a file at the root of a repository, other than a descriptor, is a quiet change -/
theorem edit_quiet {f : ManifestEntry} {name : String} (hname : Path.IsOrdinary (Utf8.encode name))
    (hdescriptor : Utf8.encode name ∉ descriptorNames) {fs fs' : FileStore} {change : List UInt8 → List UInt8}
    (hfs : fs.Plain) (h : fs.edit (inside (shop.dirOf f) name) change = .ok fs') : Quiet shop fs fs' := by
  have hcwd := (FileStore.edit_extends h).cwd
  have hplain := (FileStore.edit_at_place hfs h).1
  refine ⟨hcwd, hplain, fun e system hn hbuilt => ?_⟩
  obtain ⟨hL, x, hx, hsystem⟩ := hbuilt
  have hlen : (fs.place (inside (shop.dirOf f) name)).length ≤ (fs.place (shop.dirOf e)).length + 1 := by
    rw [place_inside hname, place_dirOf hn, List.length_append, List.length_append]
    exact Nat.succ_le_succ (length_place_dirOf_le f fs)
  have hlast : ∀ n ∈ descriptorNames, (fs.place (inside (shop.dirOf f) name)).getLast? ≠ some n := by
    intro n hmem heq
    obtain rfl : Utf8.encode name = n := Option.some.inj ((getLast?_place_inside hname fs).symm.trans heq)
    exact hdescriptor hmem
  obtain ⟨x', hx', hsame⟩ := edit_systemOf hfs h hx hlen hlast
  have hthere := (FileStore.edit_extends h).pathExists (FileStore.pathExists_iff.2 ⟨_, hL⟩)
  refine ⟨FileStore.leads_place hplain hthere, x', ?_, (hsame _).trans hsystem⟩
  rw [FileStore.place_congr hcwd, hx']

/-- a file that is written is the only thing that can be new -/
theorem edit_view {p : Path} {fs fs' : FileStore} {change : List UInt8 → List UInt8} (hfs : fs.Plain)
    (h : fs.edit p change = .ok fs') {l : Location} (hl : fs'.root.view l ≠ none) :
    fs.root.view l ≠ none ∨ l = fs.place p := by
  obtain ⟨-, -, ⟨c, hplaced⟩, -⟩ := FileStore.edit_at_place hfs h
  by_cases hloc : l = fs.place p
  · exact .inr hloc
  · exact .inl (hplaced.view_of_ne hloc ▸ hl)

/-- the directory of repositories is made before there are any -/
theorem makeDirs_quiet {fs : FileStore} (hfs : fs.Plain) : Quiet shop fs (fs.makeDirs shop.reposDir).2 := by
  have hmakes := FileStore.makes_makeDirs fs shop.reposDir
  refine ⟨hmakes.extends.cwd, (hmakes.onlyNewDirs hfs).1, fun e system hn hbuilt => ?_⟩
  have hsame : (fs.makeDirs shop.reposDir).2 = fs := by
    by_cases hempty : shop.reposDir.bytes = []
    · rw [FileStore.makeDirs, if_pos hempty]
    · obtain ⟨R, -, hR, hd, -⟩ := FileStore.Leads.parent hn hempty hbuilt.1
      rw [FileStore.makeDirs_of_isDir (FileStore.isDir_iff.2 ⟨R, hR, hd⟩)]
  rw [hsame]
  exact hbuilt

theorem makeDirs_unmarked {fs : FileStore} (hfs : fs.Plain)
    (hfree : ∀ m ∈ markerNames, m ∉ FileStore.segmentsOf shop.reposDir) :
    Unmarked fs (fs.makeDirs shop.reposDir).2 := by
  intro l m hm hlast hl
  by_cases hsame : (fs.makeDirs shop.reposDir).2.root.view l = fs.root.view l
  · rwa [hsame] at hl
  · obtain ⟨-, -, n, hn, hlast'⟩ := ((FileStore.makes_makeDirs fs shop.reposDir).onlyNewDirs hfs).2 l hsame
    obtain rfl : m = n := Option.some.inj (hlast.symm.trans hlast')
    exact absurd hn (hfree m hm)

/-! ## The invariant -/

/-- a store in which every marker is accounted for by `J`, and the repositories of `H` are built as it says; paths are
read as in the store `fs₀` -/
structure Keeping (shop : Workshop) (fs₀ : FileStore) (J : Name → Location → Prop)
    (H : ManifestEntry → BuildSystem → Prop) (fs : FileStore) : Prop where
  cwd : fs.cwd = fs₀.cwd
  plain : fs.Plain
  marked : ∀ l, ∀ m ∈ markerNames, l.getLast? = some m → fs.root.view l ≠ none → J m l
  steady : ∀ e system, H e system → Path.IsOrdinary e.dirName → BuiltBy fs (shop.dirOf e) system

section Keeping

variable {fs₀ fs fs' : FileStore} {J J' : Name → Location → Prop} {H H' : ManifestEntry → BuildSystem → Prop}

theorem Keeping.mono (h : Keeping shop fs₀ J H fs) (hJ : ∀ m l, J m l → J' m l) (hH : ∀ e system, H' e system →
    H e system) : Keeping shop fs₀ J' H' fs :=
  ⟨h.cwd, h.plain, fun l m hm hlast hl => hJ m l (h.marked l m hm hlast hl), fun e s hs => h.steady e s (hH e s hs)⟩

theorem Keeping.quiet (h : Keeping shop fs₀ J H fs) (hquiet : Quiet shop fs fs')
    (hmarked : ∀ l, ∀ m ∈ markerNames, l.getLast? = some m → fs'.root.view l ≠ none → fs.root.view l ≠ none ∨ J m l) :
    Keeping shop fs₀ J H fs' where
  cwd := hquiet.cwd.trans h.cwd
  plain := hquiet.plain
  marked := fun l m hm hlast hl => (hmarked l m hm hlast hl).elim (h.marked l m hm hlast) id
  steady := fun e system hs hn => hquiet.steady e system hn (h.steady e system hs hn)

end Keeping

/-! ## One visit -/

/-- the record shows that the stage succeeded that a marker stands for -/
def Vouched (shop : Workshop) (libs : Path) (log : List Issued) (system : BuildSystem) (m : Name) : Prop :=
  m = Utf8.encode builtMarker ∧ Compiled shop log system ∨ m = Utf8.encode libsMarker ∧ Stocked shop libs log system

theorem Vouched.mono {libs : Path} {log log' : List Issued} {system : BuildSystem} {m : Name}
    (h : Vouched shop libs log system m) (hsub : log ⊆ log') : Vouched shop libs log' system m :=
  h.imp (fun h => ⟨h.1, h.2.mono hsub⟩) fun h => ⟨h.1, h.2.mono hsub⟩

theorem vouched_of_marks {dir libs p : Path} {system : BuildSystem} {n : Nat} {w : World σ}
    (h : Marks shop dir libs system n w p) :
    ∃ marker, p = inside dir marker ∧ Utf8.encode marker ∈ markerNames ∧
      Vouched shop libs (w.since n) system (Utf8.encode marker) := by
  rcases h with ⟨rfl, h⟩ | ⟨rfl, h⟩
  · exact ⟨_, rfl, List.mem_cons_self, .inl ⟨rfl, h⟩⟩
  · exact ⟨_, rfl, List.mem_cons_of_mem _ List.mem_cons_self, .inr ⟨rfl, h⟩⟩

theorem isOrdinary_of_mem_markerNames : ∀ m ∈ markerNames, Path.IsOrdinary m ∧ m ∉ descriptorNames := by
  decide +kernel

theorem ClonesInside.files_after_step (hr : ClonesInside shop runner) {libs : Path} {c : Command}
    (hc : IsStep shop libs c) (w : World σ) : (w.after runner c).files = w.files := by
  refine hr.other w c fun e text _ => ?_
  rintro rfl
  exact hc.program_ne_git rfl

theorem ClonesInside.files_after_checkout (hr : ClonesInside shop runner) (w : World σ) (revision : String)
    (dir : Path) : (w.after runner (checkoutCommand revision dir)).files = w.files :=
  hr.other w _ fun _ _ _ => (cloneCommand_ne_checkoutCommand _ _ _ _).symm

section Visit

variable {fs₀ : FileStore} {J : Name → Location → Prop} {H : ManifestEntry → BuildSystem → Prop} {e : ManifestEntry}

/-- getting at a repository makes no marker -/
theorem Keeping.arrives (hr : ClonesInside shop runner)
    (hfree : ∀ m ∈ markerNames, m ∉ FileStore.segmentsOf (shop.dirOf e))
    {w w' : World σ} {r : Except BuildError Unit} (h : Keeping shop fs₀ J H w.files)
    (ha : Arrives shop runner e w r w') : Keeping shop fs₀ J H w'.files := by
  cases ha with
  | notText => exact h
  | there => exact h
  | @fetch text _ _ ht hp hfetched =>
    have hpop := hr.clone w e text h.plain ht hp
    have hcloned : Keeping shop fs₀ J H (w.after runner (cloneCommand e.url text)).files :=
      h.quiet (hpop.quiet rfl h.plain hp) fun l m hm hlast hl => .inl (hpop.unmarked hfree l m hm hlast hl)
    cases hfetched with
    | cloneFailed => exact hcloned
    | checkoutFailed _ hw₁ => rw [hr.files_after_checkout, hw₁]; exact hcloned
    | ignoreFailed _ hw₁ _ hw₂ => rw [hw₂, hr.files_after_checkout, hw₁]; exact hcloned
    | done _ hw₁ _ hw₂ hignore =>
      rw [hw₂, hr.files_after_checkout, hw₁] at hignore
      have hname : Path.IsOrdinary (Utf8.encode ".gitignore") := by decide +kernel
      refine hcloned.quiet (edit_quiet hname (by decide +kernel) hcloned.plain hignore) fun l m hm hlast hl => ?_
      refine (edit_view hcloned.plain hignore hl).imp_right fun hplace => ?_
      rw [hplace, getLast?_place_inside hname] at hlast
      rw [← Option.some.inj hlast] at hm
      exact absurd hm (by decide +kernel)

/-- going through the stages makes a marker only where the record vouches for it -/
theorem Keeping.stages (hr : ClonesInside shop runner) {libs : Path} {system : BuildSystem} {n : Nat} {w w' : World σ}
    (h : Keeping shop fs₀ J H w.files)
    (hm : Moves runner (IsStep shop libs) (Marks shop (shop.dirOf e) libs system n) w w') :
    Keeping shop fs₀ (fun m l => J m l ∨ l = fs₀.place (shop.dirOf e) ++ [m] ∧ Vouched shop libs (w'.since n) system m)
      H w'.files := by
  induction hm with
  | refl => exact h.mono (fun _ _ => .inl) fun _ _ => id
  | @issue w₁ c hm hc ih =>
    rw [hr.files_after_step hc]
    refine ih.mono (fun m l hJ => hJ.imp_right fun hv => ⟨hv.1, hv.2.mono fun i hi => ?_⟩) fun _ _ => id
    exact ((Moves.refl w₁).issue hc : Moves runner (IsStep shop libs) (fun _ _ => False) w₁ _).mem_since hi
  | @touch w₁ p files hm hmarks hf ih =>
    obtain ⟨marker, rfl, hmem, hv⟩ := vouched_of_marks hmarks
    obtain ⟨hname, hdescriptor⟩ := isOrdinary_of_mem_markerNames _ hmem
    refine ih.quiet (edit_quiet hname hdescriptor ih.plain hf) fun l m _ hlast hl => ?_
    refine (edit_view ih.plain hf hl).imp_right fun hplace => ?_
    rw [hplace, getLast?_place_inside hname] at hlast
    obtain rfl : Utf8.encode marker = m := Option.some.inj hlast
    rw [hplace, place_inside hname, FileStore.place_congr ih.cwd]
    exact .inr ⟨rfl, hv⟩

end Visit

/-! ## Any number of visits -/

/-- a marker at the root of a repository that was visited, and a visit vouches for it -/
def Accounted (shop : Workshop) (runner : Runner σ) (fs₀ : FileStore) (vs : List (Visit σ)) (m : Name) (l : Location) :
    Prop :=
  ∃ v ∈ vs, l = fs₀.place (shop.dirOf v.entry) ++ [m] ∧
    ∃ system, v.Detected shop runner system ∧
      Vouched shop (libraryDir fs₀ (shop.dirOf v.entry)) (v.log shop runner) system m

/-- a visit of the entry detected the build system -/
def Seen (shop : Workshop) (runner : Runner σ) (vs : List (Visit σ)) (e : ManifestEntry) (system : BuildSystem) :
    Prop :=
  ∃ v ∈ vs, v.entry = e ∧ v.Detected shop runner system

/-- after the visits `vs`, all markers are accounted for and all repositories are built as they were seen to be -/
abbrev Sound (shop : Workshop) (runner : Runner σ) (fs₀ : FileStore) (vs : List (Visit σ)) (w : World σ) : Prop :=
  Keeping shop fs₀ (Accounted shop runner fs₀ vs) (Seen shop runner vs) w.files

section Sound

variable {fs₀ : FileStore} {vs : List (Visit σ)} {e : ManifestEntry} {w w' : World σ}

theorem Accounted.append {m : Name} {l : Location} (h : Accounted shop runner fs₀ vs m l) (vs' : List (Visit σ)) :
    Accounted shop runner fs₀ (vs ++ vs') m l := by
  obtain ⟨v, hv, hl⟩ := h
  exact ⟨v, List.mem_append_left _ hv, hl⟩

/-- the visit that is going on has seen what is there now -/
theorem Keeping.see {J : Name → Location → Prop} {r : Except BuildError Unit}
    (h : Keeping shop fs₀ J (Seen shop runner vs) w'.files) (ha : Arrival shop runner e w r w') :
    Keeping shop fs₀ J (Seen shop runner (vs ++ [⟨e, w⟩])) w'.files := by
  refine ⟨h.cwd, h.plain, h.marked, fun f system hseen hn => ?_⟩
  obtain ⟨v, hv, hf, hdetected⟩ := hseen
  rcases List.mem_append.1 hv with hv | hv
  · exact h.steady f system ⟨v, hv, hf, hdetected⟩ hn
  · obtain rfl := List.mem_singleton.1 hv
    subst hf
    obtain ⟨w₁, harrive, -, hdetect⟩ := hdetected
    obtain rfl : w' = w₁ := (Prod.mk.inj (ha.exec.symm.trans harrive)).2
    exact systemOf_of_detect h.plain hdetect

theorem Sound.process (hr : ClonesInside shop runner) (h : Sound shop runner fs₀ vs w)
    (hfree : ∀ m ∈ markerNames, m ∉ FileStore.segmentsOf (shop.dirOf e)) :
    Sound shop runner fs₀ (vs ++ [⟨e, w⟩]) ((process shop runner e).exec w).2 := by
  have hsee : ∀ {r : Except BuildError Unit} {w₁ : World σ}, Arrival shop runner e w r w₁ →
      Keeping shop fs₀ (Accounted shop runner fs₀ (vs ++ [⟨e, w⟩])) (Seen shop runner (vs ++ [⟨e, w⟩])) w₁.files :=
    fun ha => ((h.arrives hr hfree ha.arrives).see ha).mono (fun _ _ hJ => hJ.append _) fun _ _ => id
  rcases hexec : (Repository.process shop runner e).exec w with ⟨r, w'⟩
  have hlog : (⟨e, w⟩ : Visit σ).log shop runner = w'.since w.issued.length := by rw [Visit.log, hexec]
  cases processes_process hexec with
  | notArrived ha => exact hsee ha
  | passed ha => exact hsee ha
  | undetected ha => exact hsee ha
  | @staged system w₁ _ _ ha hpending hdetect hmoves _ =>
    refine ((hsee ha).stages hr hmoves).mono (fun m l hJ => ?_) fun _ _ => id
    rcases hJ with hJ | ⟨hplace, hv⟩
    · exact hJ
    · refine ⟨⟨e, w⟩, by simp, hplace, system, ⟨w₁, ha.exec, hpending, hdetect⟩, ?_⟩
      rw [hlog, ← libraryDir_congr (hsee ha).cwd]
      exact hv.mono (List.drop_subset_drop_left _ ha.arrives.length_issued_le)

theorem Sound.processAll (hr : ClonesInside shop runner) {es : List ManifestEntry}
    (hfree : ∀ e ∈ es, ∀ m ∈ markerNames, m ∉ FileStore.segmentsOf (shop.dirOf e))
    (h : Sound shop runner fs₀ vs w) :
    Sound shop runner fs₀ (vs ++ visitsInOrder shop runner es w) ((processAll shop runner es).exec w).2 := by
  induction es generalizing vs w with
  | nil =>
    rw [visitsInOrder, List.append_nil]
    exact h
  | cons e es ih =>
    have hfirst := h.process hr (hfree e List.mem_cons_self)
    rw [visitsInOrder, Repository.processAll, exec_bind]
    rcases hexec : (Repository.process shop runner e).exec w with ⟨r | o, w'⟩
    · rw [hexec] at hfirst
      exact hfirst
    · rw [hexec] at hfirst
      have hrest := ih (fun e' he' => hfree e' (List.mem_cons_of_mem e he')) hfirst
      rw [List.append_assoc] at hrest
      exact hrest

theorem Sound.call (hr : ClonesInside shop runner)
    (hdir : ∀ m ∈ markerNames, m ∉ FileStore.segmentsOf shop.reposDir) {c : Call}
    (hnames : ∀ e ∈ c.entries, e.dirName ∉ markerNames) (h : Sound shop runner fs₀ vs w) :
    Sound shop runner fs₀ (vs ++ c.visits shop runner w) (c.after shop runner w) := by
  have hfree : ∀ e ∈ c.entries, ∀ m ∈ markerNames, m ∉ FileStore.segmentsOf (shop.dirOf e) := by
    intro e he m hm hseg
    rcases segmentsOf_dirOf hseg with hseg | hname
    · exact hdir m hm hseg
    · exact hnames e he (hname ▸ hm)
  cases c with
  | process e => exact h.process hr (hfree e List.mem_cons_self)
  | run es =>
    have hmade : Sound shop runner fs₀ vs { w with files := (w.files.makeDirs shop.reposDir).2 } :=
      h.quiet (makeDirs_quiet h.plain) fun l m hm hlast hl => .inl (makeDirs_unmarked h.plain hdir l m hm hlast hl)
    rw [Call.visits, Call.after, Repository.run, exec_bind, exec_makeDirs]
    rcases hfiles : w.files.makeDirs shop.reposDir with ⟨r | u, files⟩
    · rw [hfiles] at hmade
      simpa using hmade
    · rw [hfiles] at hmade
      exact hmade.processAll hr hfree

theorem Sound.calls (hr : ClonesInside shop runner)
    (hdir : ∀ m ∈ markerNames, m ∉ FileStore.segmentsOf shop.reposDir) {calls : List Call}
    (hnames : ∀ c ∈ calls, ∀ e ∈ c.entries, e.dirName ∉ markerNames) (h : Sound shop runner fs₀ vs w) :
    Sound shop runner fs₀ (vs ++ visitsOf shop runner calls w) (afterAll shop runner calls w) := by
  induction calls generalizing vs w with
  | nil =>
    rw [visitsOf, List.append_nil]
    exact h
  | cons c calls ih =>
    have hfirst := h.call hr hdir (hnames c List.mem_cons_self)
    have hrest := ih (fun c' hc' => hnames c' (List.mem_cons_of_mem c hc')) hfirst
    rw [List.append_assoc] at hrest
    exact hrest

end Sound

/-! ## What markers tell -/

/-- a repository with a name of its own shares its place only with those of that name -/
theorem dirName_eq_of_place {e f : ManifestEntry} {fs : FileStore} (hn : Path.IsOrdinary e.dirName)
    (h : fs.place (shop.dirOf f) = fs.place (shop.dirOf e)) : f.dirName = e.dirName := by
  rw [place_dirOf hn] at h
  by_cases hf : Path.IsOrdinary f.dirName
  · rw [place_dirOf hf] at h
    simpa using h
  · have hlen := FileStore.length_place_join_le (p := shop.reposDir) f.slash_not_mem_dirName hf fs
    rw [← Workshop.dirOf_eq, h, List.length_append, List.length_singleton] at hlen
    omega

theorem Sound.unique_system {fs₀ : FileStore} {vs : List (Visit σ)} {w : World σ} (h : Sound shop runner fs₀ vs w)
    {e : ManifestEntry} (hn : Path.IsOrdinary e.dirName) {v v' : Visit σ} (hv : v ∈ vs) (hv' : v' ∈ vs)
    (hp : fs₀.place (shop.dirOf v.entry) = fs₀.place (shop.dirOf e))
    (hp' : fs₀.place (shop.dirOf v'.entry) = fs₀.place (shop.dirOf e)) {system system' : BuildSystem}
    (hd : v.Detected shop runner system) (hd' : v'.Detected shop runner system') : system' = system := by
  have hname := dirName_eq_of_place hn hp
  have hname' := dirName_eq_of_place hn hp'
  have hdir : shop.dirOf v'.entry = shop.dirOf v.entry := by
    rw [Workshop.dirOf_eq, Workshop.dirOf_eq, hname, hname']
  have hord : Path.IsOrdinary v.entry.dirName := by rw [hname]; exact hn
  have hord' : Path.IsOrdinary v'.entry.dirName := by rw [hname']; exact hn
  obtain ⟨-, x, hx, hs⟩ := h.steady v.entry system ⟨v, hv, rfl, hd⟩ hord
  obtain ⟨-, x', hx', hs'⟩ := h.steady v'.entry system' ⟨v', hv', rfl, hd'⟩ hord'
  rw [hdir] at hx' hs'
  rw [← hs', ← hs, Option.some.inj (hx'.symm.trans hx)]

theorem Sound.accounted {fs₀ : FileStore} {vs : List (Visit σ)} {w : World σ} (h : Sound shop runner fs₀ vs w)
    {e : ManifestEntry} {marker : String} (hm : Utf8.encode marker ∈ markerNames)
    (hthere : w.files.pathExists (inside (shop.dirOf e) marker) = true) :
    ∃ v ∈ vs, fs₀.place (shop.dirOf v.entry) = fs₀.place (shop.dirOf e) ∧
      ∃ system, v.Detected shop runner system ∧
        Vouched shop (libraryDir fs₀ (shop.dirOf v.entry)) (v.log shop runner) system (Utf8.encode marker) := by
  have hname := (isOrdinary_of_mem_markerNames _ hm).1
  have hL := FileStore.leads_place h.plain hthere
  have hplace : w.files.place (inside (shop.dirOf e) marker) = fs₀.place (shop.dirOf e) ++ [Utf8.encode marker] := by
    rw [place_inside hname, FileStore.place_congr h.cwd]
  have hview : w.files.root.view (w.files.place (inside (shop.dirOf e) marker)) ≠ none := by
    rcases hL.kind with hk | ⟨c, hk⟩ <;> simp [hk]
  obtain ⟨v, hv, hat, hsystem⟩ := h.marked _ _ hm (by rw [hplace]; simp) hview
  refine ⟨v, hv, ?_, hsystem⟩
  rw [hplace] at hat
  exact (List.append_cancel_right hat).symm

theorem ClonesInside.pathExists_of_moves (hr : ClonesInside shop runner) {libs : Path} {F : World σ → Path → Prop}
    {w w' : World σ} (h : Moves runner (IsStep shop libs) F w w') {p : Path} (hp : w.files.pathExists p = true) :
    w'.files.pathExists p = true := by
  induction h with
  | refl => exact hp
  | issue _ hc ih => rw [hr.files_after_step hc]; exact ih
  | touch _ _ hf ih => exact (FileStore.edit_extends hf).pathExists ih

/-- a repository that is done has both markers -/
theorem ClonesInside.markers_of_done (hr : ClonesInside shop runner) {e : ManifestEntry} {w w' : World σ} {o : Outcome}
    (h : (process shop runner e).exec w = (.ok o, w')) :
    w'.files.pathExists (inside (shop.dirOf e) builtMarker) = true ∧
      w'.files.pathExists (inside (shop.dirOf e) libsMarker) = true := by
  cases processes_process h with
  | passed _ hbuilt hlibs => exact ⟨hbuilt, hlibs⟩
  | staged _ _ _ _ hdone =>
    obtain ⟨hlibs, w₂, hbuilt, hmoves⟩ := hdone o rfl
    exact ⟨hr.pathExists_of_moves hmoves hbuilt, hlibs⟩

/-- **Markers are sound over any sequence of calls.** Start without links and without anything called like a marker, let
clones stay in their targets, and let neither the directory of repositories nor a repository be called like a marker. Then
a repository has `.built` only if a visit detected its build system and compiled next to every descriptor, and `.libs`
only if a visit put the libraries in place for every descriptor. All visits of a repository with a name of its own
detect the same build system, and a call that succeeds leaves both markers. -/
theorem markers_vouched (shop : Workshop) (runner : Runner σ) (hr : ClonesInside shop runner)
    (hdir : ∀ m ∈ markerNames, m ∉ FileStore.segmentsOf shop.reposDir) (w : World σ) (hplain : w.files.Plain)
    (hbare : ∀ l, ∀ m ∈ markerNames, w.files.root.view (l ++ [m]) = none) (calls : List Call)
    (hnames : ∀ c ∈ calls, ∀ e ∈ c.entries, e.dirName ∉ markerNames) (e : ManifestEntry) :
    ((afterAll shop runner calls w).files.pathExists (inside (shop.dirOf e) builtMarker) = true →
      ∃ v ∈ visitsOf shop runner calls w, w.files.place (shop.dirOf v.entry) = w.files.place (shop.dirOf e) ∧
        ∃ system, v.Detected shop runner system ∧ Compiled shop (v.log shop runner) system) ∧
    ((afterAll shop runner calls w).files.pathExists (inside (shop.dirOf e) libsMarker) = true →
      ∃ v ∈ visitsOf shop runner calls w, w.files.place (shop.dirOf v.entry) = w.files.place (shop.dirOf e) ∧
        ∃ system, v.Detected shop runner system ∧
          Stocked shop (libraryDir w.files (shop.dirOf v.entry)) (v.log shop runner) system) ∧
    (Path.IsOrdinary e.dirName → ∃ system, ∀ v ∈ visitsOf shop runner calls w,
      w.files.place (shop.dirOf v.entry) = w.files.place (shop.dirOf e) →
        ∀ system', v.Detected shop runner system' → system' = system) ∧
    ∀ o w', (process shop runner e).exec (afterAll shop runner calls w) = (.ok o, w') →
      w'.files.pathExists (inside (shop.dirOf e) builtMarker) = true ∧
        w'.files.pathExists (inside (shop.dirOf e) libsMarker) = true := by
  have hstart : Sound shop runner w.files [] w := by
    refine ⟨rfl, hplain, fun l m hm hlast hl => ?_, fun _ _ ⟨_, hv, _⟩ => by cases hv⟩
    obtain ⟨l', rfl⟩ := List.getLast?_eq_some_iff.1 hlast
    exact absurd (hbare l' m hm) hl
  have hend := hstart.calls hr hdir hnames
  rw [List.nil_append] at hend
  refine ⟨fun hbuilt => ?_, fun hlibs => ?_, fun hn => ?_, fun o w' h => hr.markers_of_done h⟩
  · obtain ⟨v, hv, hp, system, hd, hvouched⟩ := hend.accounted (by simp [markerNames]) hbuilt
    refine ⟨v, hv, hp, system, hd, ?_⟩
    rcases hvouched with ⟨-, h⟩ | ⟨hne, -⟩
    · exact h
    · exact absurd hne (by decide +kernel)
  · obtain ⟨v, hv, hp, system, hd, hvouched⟩ := hend.accounted (by simp [markerNames]) hlibs
    refine ⟨v, hv, hp, system, hd, ?_⟩
    rcases hvouched with ⟨hne, -⟩ | ⟨-, h⟩
    · exact absurd hne (by decide +kernel)
    · exact h
  · by_cases hsome : ∃ v ∈ visitsOf shop runner calls w,
        w.files.place (shop.dirOf v.entry) = w.files.place (shop.dirOf e) ∧ ∃ system, v.Detected shop runner system
    · obtain ⟨v, hv, hp, system, hd⟩ := hsome
      exact ⟨system, fun v' hv' hp' system' hd' => hend.unique_system hn hv hv' hp hp' hd hd'⟩
    · exact ⟨.unknown, fun v hv hp system hd => absurd ⟨v, hv, hp, system, hd⟩ hsome⟩

/-! ## Runs with markers -/

def isLink : Kind → Bool
  | .link _ => true
  | _ => false

/-- nothing in the tree is a link or called like a marker -/
def Clean (x : Node) : Prop := ∀ p ∈ x.walk, isLink p.2 = false ∧ ∀ m ∈ markerNames, p.1.getLast? ≠ some m

instance (x : Node) : Decidable (Clean x) := inferInstanceAs (Decidable (∀ p ∈ x.walk, _ ∧ _))

theorem Clean.view {x : Node} (h : Clean x) {l : Location} {k : Kind} (hk : x.view l = some k) :
    (∀ target, k ≠ .link target) ∧ ∀ m ∈ markerNames, l.getLast? ≠ some m := by
  obtain ⟨hlink, hname⟩ := h _ (Node.mem_walk_of_view hk)
  refine ⟨?_, hname⟩
  rintro target rfl
  cases hlink

theorem Clean.start {fs : FileStore} (h : Clean fs.root) :
    fs.Plain ∧ ∀ l, ∀ m ∈ markerNames, fs.root.view (l ++ [m]) = none := by
  refine ⟨fun l target hl => (h.view hl).1 target rfl, fun l m hm => ?_⟩
  cases hv : fs.root.view (l ++ [m]) with
  | none => rfl
  | some k => exact absurd (by simp) ((h.view hv).2 m hm)

theorem Hosted.Valid.populates {h : Hosted} (hvalid : h.Valid) (hclean : Clean h.tree) {fs : FileStore}
    (hplain : fs.Plain) (hcwd : fs.cwd = []) (hd : fs.root.view [reposName] = some .dir)
    (hfree : fs.root.view [reposName, h.dirName] = none) :
    Populates reposShop h.dir fs (fs.put [reposName, h.dirName] h.tree) := by
  have hplace : fs.place h.dir = [reposName, h.dirName] := by
    rw [Hosted.dir, FileStore.place_join_ordinary hvalid.ordinary, ← (leads_repos hcwd hd).loc_eq hplain]
    rfl
  have hview : ∀ l, (fs.put [reposName, h.dirName] h.tree).root.view l =
      if [reposName, h.dirName] <+: l then h.tree.view (l.drop 2) else fs.root.view l :=
    fun l => Node.view_set hd h.dirName h.tree l
  have hnone : ∀ t, fs.root.view ([reposName, h.dirName] ++ t) = none := Node.view_append_eq_none_of_none hfree
  constructor
  · intro l hl
    rw [hview] at hl ⊢
    split_ifs at hl ⊢ with hbelow
    · obtain ⟨t, rfl⟩ := hbelow
      rw [hnone] at hl ⊢
      rw [hplace]
      cases t with
      | nil =>
        refine .inl ⟨rfl, by simpa using hvalid.kind, ⟨h.dirName, ?_, rfl⟩, fun _ _ => rfl⟩
        rw [Hosted.dir, FileStore.segmentsOf_join hvalid.ordinary.isAbsolute,
          FileStore.segmentsOf_of_not_mem hvalid.ordinary.2.1 hvalid.ordinary.1]
        exact List.mem_append_right _ (List.mem_singleton_self _)
      | cons n t =>
        obtain ⟨k, hk⟩ := Option.ne_none_iff_exists'.1 hl
        obtain ⟨hlink, hname⟩ := hclean.view hk
        obtain ⟨hleads, hself⟩ := hvalid.leads_put hcwd hd hfree
        refine .inr ⟨FileStore.isDir_iff.2 ⟨_, hleads, hself⟩, List.prefix_append _ _, by simp, ?_, ?_⟩
        · intro target htarget
          exact hlink target (Option.some.inj (hk.symm.trans htarget))
        · intro m hm hlast
          refine hname m hm ?_
          simpa using hlast
    · exact absurd rfl hl
  · intro l hsame
    by_cases hbelow : [reposName, h.dirName] <+: l
    · obtain ⟨t, rfl⟩ := hbelow
      have hnew := hsame []
      rw [List.append_nil, hnone] at hnew
      rw [Node.view_eq_none.1 hnew, Node.view_eq_none.1 (hnone t)]
    · refine Node.get?_set_of_apart hbelow (fun habove => ?_) h.tree
      obtain ⟨t, ht⟩ := habove
      have hnew := hsame t
      rw [ht, hfree, (hvalid.leads_put hcwd hd hfree).2] at hnew
      cases hnew

theorem founder_clonesInside {hosted : List Hosted} (failing : List Nat) (hvalid : ∀ h ∈ hosted, h.Valid)
    (hclean : ∀ h ∈ hosted, Clean h.tree) (hurl : ∀ h ∈ hosted, reposShop.dirOf ⟨h.url, ""⟩ = h.dir) :
    ClonesInside reposShop (founder hosted failing) := by
  constructor
  · intro w e text hplain ht hp
    rw [World.after]
    rcases founder_cases hosted failing (cloneCommand e.url text) w.memory w.files with
      ⟨e, hrun⟩ | ⟨-, hrun⟩ | ⟨h, hmem, hcloning, hcwd, hd, hfree, hrun⟩
    · rw [hrun]
      exact ⟨fun l hl => absurd rfl hl, fun l _ => rfl⟩
    · rw [hrun]
      exact ⟨fun l hl => absurd rfl hl, fun l _ => rfl⟩
    · rw [hrun]
      rw [dir_eq_of_cloneCommand hcloning ht (hvalid h hmem).text]
      exact (hvalid h hmem).populates (hclean h hmem) hplain hcwd hd hfree
  · intro w c hc
    rw [World.after]
    rcases founder_cases hosted failing c w.memory w.files with
      ⟨e, hrun⟩ | ⟨-, hrun⟩ | ⟨h, hmem, hcloning, -⟩
    · rw [hrun]
    · rw [hrun]
    · refine absurd hcloning (hc ⟨h.url, ""⟩ ("repos/" ++ h.name) ?_)
      rw [hurl h hmem]
      exact (hvalid h hmem).text

/-- a call that fails after it compiled, and one that does the rest: each of the markers was earned -/
theorem markers_vouched_resumed :
    let e : ManifestEntry := ⟨"https://example.com/foo", "v1"⟩
    let runner := founder [⟨e.url, "foo", mavenProject⟩] [3]
    let w : World Nat := ⟨⟨.dir [(reposName, .empty)], []⟩, 0, []⟩
    let calls : List Call := [.process e, .run [e]]
    (afterAll reposShop runner (calls.take 1) w).files.pathExists (inside (reposShop.dirOf e) libsMarker) = false ∧
      (∃ v ∈ visitsOf reposShop runner calls w, ∃ system, v.Detected reposShop runner system ∧
        Compiled reposShop (v.log reposShop runner) system) ∧
      ∃ v ∈ visitsOf reposShop runner calls w, ∃ system, v.Detected reposShop runner system ∧
        Stocked reposShop (libraryDir w.files (reposShop.dirOf v.entry)) (v.log reposShop runner) system := by
  intro e runner w calls
  have hclones : ClonesInside reposShop runner :=
    founder_clonesInside [3] (by decide +kernel) (by decide +kernel) (by decide +kernel)
  obtain ⟨hplain, hbare⟩ := Clean.start (show Clean w.files.root by decide +kernel)
  obtain ⟨hbuilt, hlibs, -⟩ := markers_vouched reposShop runner hclones (by decide +kernel) w hplain hbare calls
    (by decide +kernel) e
  obtain ⟨v, hv, -, hcompiled⟩ := hbuilt (by decide +kernel)
  obtain ⟨v', hv', -, hstocked⟩ := hlibs (by decide +kernel)
  exact ⟨by decide +kernel, ⟨v, hv, hcompiled⟩, v', hv', hstocked⟩

/-- **Repositories can be taken for markers**: with two of them called `.built` and `.libs`, one without a name of its
own is passed over as done, though nothing but git was ever run. -/
theorem repositories_taken_for_markers :
    let built : ManifestEntry := ⟨"https://example.com/.built", "v1"⟩
    let libs : ManifestEntry := ⟨"https://example.com/.libs", "v1"⟩
    let nameless : ManifestEntry := ⟨"https://example.com/.git", "v1"⟩
    let tree : Node := .dir [(Utf8.encode "README", .file [] false)]
    let runner := founder [⟨built.url, ".built", tree⟩, ⟨libs.url, ".libs", tree⟩] []
    let w : World Nat := ⟨⟨.dir [(reposName, .empty)], []⟩, 0, []⟩
    let w' := afterAll reposShop runner [.process built, .process libs] w
    ClonesInside reposShop runner ∧ w.files.Plain ∧
      (∀ l, ∀ m ∈ markerNames, w.files.root.view (l ++ [m]) = none) ∧
      ((process reposShop runner nameless).exec w').1 = .ok .alreadyBuilt ∧
      ∀ i ∈ w'.issued, i.command.program = "git" := by
  intro built libs nameless tree runner w w'
  obtain ⟨hplain, hbare⟩ := Clean.start (show Clean w.files.root by decide +kernel)
  refine ⟨founder_clonesInside [] ?_ ?_ ?_, hplain, hbare, ?_⟩ <;> decide +kernel

end Benchwork.Build.Repository
