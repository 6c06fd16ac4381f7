/-
Where a repository is.

A repository whose name can be asked for is an entry of the directory of repositories, and a call stays inside it: all
it does is to clone into it, to run commands in it or further down, and to write the ignore list and the markers at its
root (`process_acts`). This holds for trees in order, and for a repository that is not a descriptor itself: the
descriptors of a directory are below it, so what they are next to is in it (`parent_of_descriptor`). A name that cannot
be asked for leaves the directory of repositories itself, or the one above it (`FileStore.Enters.hollow`).
-/
import Benchwork.Proofs.Build.Confinement
import Benchwork.Proofs.Build.Detection
import Benchwork.Proofs.Build.Discovery
import Benchwork.Proofs.Build.Founder
import Benchwork.Proofs.Build.Plan
import Benchwork.Proofs.Build.RepositoryName

namespace Benchwork.Build

open Benchwork.Text

variable {σ : Type}

def Runner.KeepsOrder (runner : Runner σ) : Prop :=
  ∀ (c : Command) (memory : σ) (fs : FileStore), fs.root.Orderly → (runner.run c memory fs).2.2.Orderly

namespace Repository

open Session FileStore

variable {shop : Workshop} {runner : Runner σ}

/-! ## All that a call does -/

/-- the world was moved by commands of `C` and by writing files of `F`, and by nothing else -/
inductive Acts (runner : Runner σ) (C : Command → Prop) (F : Path → Prop) : World σ → World σ → Prop
  | refl (w : World σ) : Acts runner C F w w
  | issue {w w' : World σ} {c : Command} : Acts runner C F w w' → C c → Acts runner C F w (w'.after runner c)
  | write {w w' : World σ} {p : Path} {change : List UInt8 → List UInt8} {files : FileStore} : Acts runner C F w w' →
      F p → w'.files.edit p change = .ok files → Acts runner C F w { w' with files }

variable {C : Command → Prop} {F : Path → Prop} {w w' : World σ}

theorem Acts.trans {w'' : World σ} (h : Acts runner C F w w') (h' : Acts runner C F w' w'') :
    Acts runner C F w w'' := by
  induction h' with
  | refl => exact h
  | issue _ hc ih => exact ih.issue hc
  | write _ hp hf ih => exact ih.write hp hf

theorem Acts.of_moves {C' : Command → Prop} {G : World σ → Path → Prop} (h : Moves runner C' G w w')
    (hC : ∀ c, C' c → C c) (hF : ∀ w p, G w p → F p) : Acts runner C F w w' := by
  induction h with
  | refl => exact .refl _
  | issue _ hc ih => exact ih.issue (hC _ hc)
  | touch _ hp hf ih => exact ih.write (hF _ _ hp) hf

theorem Acts.issued (h : Acts runner C F w w') : ∃ new, w'.issued = w.issued ++ new := by
  induction h with
  | refl => exact ⟨[], by simp⟩
  | @issue w' c _ _ ih =>
    obtain ⟨new, hnew⟩ := ih
    exact ⟨new ++ [⟨c, w'.answer runner c⟩], by rw [World.issued_after, hnew, List.append_assoc]⟩
  | write _ _ _ ih => exact ih

/-- what was issued is on record, so the record tells of which kind it was -/
theorem Acts.of_record {D : Command → Prop} (h : Acts runner C F w w')
    (hD : ∀ i ∈ w'.since w.issued.length, D i.command) : Acts runner D F w w' := by
  induction h with
  | refl => exact .refl _
  | @issue w' c hacts _ ih =>
    obtain ⟨new, hnew⟩ := hacts.issued
    have hsince : (w'.after runner c).since w.issued.length =
        w'.since w.issued.length ++ [⟨c, w'.answer runner c⟩] := by
      rw [World.since, World.since, World.issued_after, hnew, List.append_assoc, List.drop_left, List.drop_left]
    rw [hsince] at hD
    refine (ih fun i hi => hD i (List.mem_append_left _ hi)).issue ?_
    exact hD ⟨c, w'.answer runner c⟩ (by simp)
  | write _ hp hf ih => exact (ih hD).write hp hf

def IsOwnFile (dir p : Path) : Prop := ∃ name ∈ ownFiles, p = inside dir name

theorem Fetched.acts {e : ManifestEntry} {dir : Path} {text : String} {r : Except BuildError Unit}
    (h : Fetched runner e dir text w r w') : Acts runner (fun _ => True) (IsOwnFile dir) w w' := by
  have hclone : Acts runner (fun _ => True) (IsOwnFile dir) w (w.after runner (cloneCommand e.url text)) :=
    (Acts.refl w).issue trivial
  cases h with
  | cloneFailed => exact hclone
  | checkoutFailed _ hw => subst hw; exact hclone.issue trivial
  | ignoreFailed _ hw _ hw' => subst hw hw'; exact hclone.issue trivial
  | done _ hw _ hw' hf =>
    subst hw hw'
    exact (hclone.issue trivial).write ⟨".gitignore", by simp [ownFiles], rfl⟩ hf

theorem Arrives.acts {e : ManifestEntry} {r : Except BuildError Unit} (h : Arrives shop runner e w r w') :
    Acts runner (fun _ => True) (IsOwnFile (shop.dirOf e)) w w' := by
  cases h with
  | notText => exact .refl w
  | there => exact .refl w
  | fetch _ _ hf => exact hf.acts

/-- apart from commands, a call writes the files at the root of its repository -/
theorem Processes.acts {e : ManifestEntry} {r : Except BuildError Outcome} (h : Processes shop runner e w r w') :
    Acts runner (fun _ => True) (IsOwnFile (shop.dirOf e)) w w' := by
  cases h with
  | notArrived ha => exact ha.arrives.acts
  | passed ha => exact ha.arrives.acts
  | undetected ha => exact ha.arrives.acts
  | staged ha _ _ hmoves =>
    refine ha.arrives.acts.trans (.of_moves hmoves (fun _ _ => trivial) ?_)
    rintro _ p (⟨hp, -⟩ | ⟨hp, -⟩)
    · exact ⟨builtMarker, by simp [ownFiles], hp⟩
    · exact ⟨libsMarker, by simp [ownFiles], hp⟩

theorem arrived_orderly (hr : runner.KeepsOrder) (e : ManifestEntry) (hw : w.files.root.Orderly) :
    (arrived shop runner e w).files.root.Orderly := by
  have hspans : Spans runner fun fs fs' => fs.root.Orderly → fs'.root.Orderly :=
    ⟨fun _ h => h, fun h h' hfs => h' (h hfs), fun w c => hr c w.memory w.files, fun h hfs => edit_orderly hfs h⟩
  obtain ⟨r, w', ha⟩ := arrival_arrive shop runner e w
  rw [arrived, ha.exec]
  exact ha.arrives.spans hspans hw

/-! ## Next to the descriptors -/

/-- a descriptor is a file that the walk met, with one of the names of descriptors -/
theorem met_of_mem_descriptorsOf {dir d : Path} {met : List (Location × Kind)}
    (h : d ∈ descriptorsOf (systemMet dir met)) :
    ∃ loc content, (loc, .file content) ∈ met ∧ Descriptor.nameFrom dir loc ∈ descriptorNames ∧
      d = Descriptor.pathFrom dir loc := by
  have hcalled : ∃ name, Utf8.encode name ∈ descriptorNames ∧ d ∈ Descriptor.called dir name met := by
    rw [systemMet] at h
    split_ifs at h
    · exact ⟨Descriptor.maven, by simp [descriptorNames], (mem_nearest.1 h).1⟩
    · exact ⟨Descriptor.gradle, by simp [descriptorNames], (mem_nearest.1 h).1⟩
    · cases h
  obtain ⟨name, hname, hd⟩ := hcalled
  obtain ⟨⟨loc, k⟩, hm, rfl⟩ := List.mem_map.1 hd
  obtain ⟨hmem, hmatch⟩ := List.mem_filter.1 hm
  cases k with
  | file content =>
    have hcalled : Descriptor.nameFrom dir loc = Utf8.encode name := of_decide_eq_true hmatch
    exact ⟨loc, content, hmem, hcalled ▸ hname, rfl⟩
  | link target => cases hmatch
  | dir => cases hmatch

theorem parent_pathFrom {p : Path} {m n : Name} (hm : Path.IsOrdinary m) (hn : Path.IsOrdinary n) {loc : Location}
    (hloc : ∀ k ∈ loc, Path.IsOrdinary k) :
    (Descriptor.pathFrom (p.join ⟨m⟩) (loc ++ [n])).parent? = some (Descriptor.pathFrom (p.join ⟨m⟩) loc) := by
  have hsnoc : ∀ l k, Descriptor.pathFrom (p.join ⟨m⟩) (l ++ [k]) = (Descriptor.pathFrom (p.join ⟨m⟩) l).join ⟨k⟩ := by
    simp [Descriptor.pathFrom]
  rw [hsnoc]
  cases loc using List.reverseRecOn with
  | nil => exact Path.parent_join hm hn
  | append_singleton loc k =>
    rw [hsnoc]
    exact Path.parent_join (hloc k (by simp)) hn

/-- what a descriptor is next to is inside the directory, if that is no descriptor itself -/
theorem parent_of_descriptor {fs : FileStore} {p d : Path} {m : Name} {met : List (Location × Kind)}
    (hm : Path.IsOrdinary m) (hfs : fs.root.Orderly)
    (hfile : m ∈ descriptorNames → ∀ content, fs.read (p.join ⟨m⟩) ≠ .ok content)
    (hwalk : Descriptor.walk fs (p.join ⟨m⟩) = .ok met) (hd : d ∈ descriptorsOf (systemMet (p.join ⟨m⟩) met)) :
    ∃ d', d.parent? = some d' ∧ IsInside (p.join ⟨m⟩) d' := by
  obtain ⟨loc, content, hmem, hname, rfl⟩ := met_of_mem_descriptorsOf hd
  have hscene := (Descriptor.walk_eq_ok.1 hwalk).1
  obtain ⟨L, hL⟩ := Descriptor.leads_of_scene hscene
  obtain ⟨met', hscene', -, hmet⟩ := Descriptor.scene_spec hfs hL
  obtain rfl : met = met' := Except.ok.inj (hscene.symm.trans hscene')
  have hview := ((hmet loc (.file content) (by simp)).1 hmem).1
  have hordinary := Descriptor.mem_scene_ordinary hfs hview
  cases loc using List.reverseRecOn with
  | nil =>
    -- the directory would be a descriptor itself
    have hself : Descriptor.nameFrom (p.join ⟨m⟩) [] = m := by
      simp [Descriptor.nameFrom, Path.fileName_join hm]
    rw [hself] at hname
    rw [List.append_nil] at hview
    exact absurd (read_of_leads hL hview) (hfile hname content)
  | append_singleton loc n =>
    have hloc : ∀ k ∈ loc, Path.IsOrdinary k := fun k hk => hordinary k (List.mem_append_left _ hk)
    exact ⟨_, parent_pathFrom hm (hordinary n (by simp)) hloc, loc, hloc, rfl⟩

/-! ## Inside the repository -/

/-- a command that is run for a repository at `dir`: it clones it, or is run inside it -/
def RunsInside (url : String) (dir : Path) (c : Command) : Prop :=
  (∃ text, dir.text? = some text ∧ c = cloneCommand url text) ∨ ∃ d, c.cwd = some d ∧ IsInside dir d

theorem isInside_self (dir : Path) : IsInside dir dir := ⟨[], by simp, rfl⟩

/-- a call for a repository with a proper name stays inside its directory -/
theorem process_acts (hr : runner.KeepsOrder) {e : ManifestEntry} (he : Path.IsOrdinary e.dirName)
    (hw : w.files.root.Orderly)
    (hfile : e.dirName ∈ descriptorNames →
      ∀ content, (arrived shop runner e w).files.read (shop.dirOf e) ≠ .ok content) :
    Acts runner (RunsInside e.url (shop.dirOf e)) (IsOwnFile (shop.dirOf e)) w
      ((process shop runner e).exec w).2 := by
  have hprocess := processes_process (Prod.mk.eta.symm : (process shop runner e).exec w = _)
  refine hprocess.acts.of_record fun i hi => ?_
  have hstep : ∀ {met : List (Location × Kind)} {line : String} {d : Path} {rt : JavaRuntime},
      Descriptor.walk (arrived shop runner e w).files (shop.dirOf e) = .ok met →
      d ∈ descriptorsOf (systemMet (shop.dirOf e) met) → RunsInside e.url (shop.dirOf e) (attempt line d rt) := by
    intro met line d rt hwalk hd
    obtain ⟨d', hparent, hinside⟩ := parent_of_descriptor he (arrived_orderly hr e hw) hfile hwalk hd
    refine .inr ⟨d', ?_, hinside⟩
    change some (d.parent?.getD d) = some d'
    rw [hparent]
    rfl
  have hwarranted := process_warranted shop runner e w i hi
  generalize i.command = c at hwarranted
  cases hwarranted with
  | clone _ ht => exact .inl ⟨_, ht, rfl⟩
  | checkout _ => exact .inr ⟨_, rfl, isInside_self _⟩
  | compile hwalk hd => exact hstep hwalk hd
  | library hwalk hd => exact hstep hwalk hd

/-- where there is no link, a path inside a repository leads to the place below the repository's entry that it names -/
theorem enters_pathFrom {fs : FileStore} {p : Path} {m : Name} {R : Location} (hm : Path.IsOrdinary m)
    (hR : fs.Enters p R) (hlink : ∀ L target, R ++ [m] <+: L → fs.root.view L ≠ some (.link target)) {loc : Location}
    (hloc : ∀ n ∈ loc, Path.IsOrdinary n) {D : Location}
    (hD : fs.Enters (Descriptor.pathFrom (p.join ⟨m⟩) loc) D) : D = R ++ [m] ++ loc := by
  induction loc using List.reverseRecOn generalizing D with
  | nil =>
    rw [List.append_nil]
    exact hR.child_eq hD hm fun target => hlink _ target (List.prefix_refl _)
  | append_singleton loc n ih =>
    rw [Descriptor.pathFrom, List.foldl_append] at hD
    have hn : Path.IsOrdinary n := hloc n (by simp)
    obtain ⟨D', -, hD', -⟩ := hD.above hn
    obtain rfl := ih (fun k hk => hloc k (List.mem_append_left _ hk)) hD'
    rw [← List.append_assoc (R ++ [m])]
    refine hD'.child_eq hD hn fun target => hlink _ target ?_
    rw [List.append_assoc (R ++ [m])]
    exact List.prefix_append _ _

/-- **A call stays inside its repository.** The repository of an entry is a child of the directory of repositories, and
a call stays inside it, unless the last segment of the URL leaves no name: then it is the directory of repositories
itself, or the one above it. -/
theorem repository_is_child_unless_hollow (shop : Workshop) (runner : Runner σ) (hr : runner.KeepsOrder)
    (e : ManifestEntry) :
    (ManifestEntry.lastSegment e.url ∉ ManifestEntry.hollowSegments →
      Path.IsOrdinary e.dirName ∧ (shop.dirOf e).components = shop.reposDir.components ++ [.name e.dirName] ∧
      (∀ w : World σ, w.files.root.Orderly →
        (e.dirName ∈ descriptorNames →
          ∀ content, (arrived shop runner e w).files.read (shop.dirOf e) ≠ .ok content) →
        Acts runner (RunsInside e.url (shop.dirOf e)) (IsOwnFile (shop.dirOf e)) w
          ((process shop runner e).exec w).2) ∧
      ∀ (fs : FileStore) (R : Location), fs.Enters shop.reposDir R →
        (∀ L target, R ++ [e.dirName] <+: L → fs.root.view L ≠ some (.link target)) →
        ∀ d D, IsInside (shop.dirOf e) d → fs.Enters d D → R ++ [e.dirName] <+: D) ∧
    (ManifestEntry.lastSegment e.url ∈ ManifestEntry.hollowSegments →
      ¬ Path.IsOrdinary e.dirName ∧
      ∀ (fs : FileStore) (R : Location), fs.Enters shop.reposDir R →
        ∃ D, D <+: R ∧ fs.Enters (shop.dirOf e) D) := by
  constructor
  · intro hsegment
    have he : Path.IsOrdinary e.dirName := e.isOrdinary_dirName.2 hsegment
    refine ⟨he, Path.components_join he, fun w hw hfile => process_acts hr he hw hfile, ?_⟩
    rintro fs R hR hlink d D ⟨loc, hloc, rfl⟩ hD
    rw [enters_pathFrom he hR hlink hloc hD]
    exact List.prefix_append _ _
  · intro hsegment
    have he : ¬ Path.IsOrdinary e.dirName := fun h => e.isOrdinary_dirName.1 h hsegment
    exact ⟨he, fun fs R hR => hR.hollow e.slash_not_mem_dirName he⟩

/-- a runner that hosts nothing leaves all trees as they are -/
theorem founder_keepsOrder (failing : List Nat) : (founder [] failing).KeepsOrder := by
  intro c calls fs hfs
  rcases founder_cases [] failing c calls fs with ⟨e, hrun⟩ | ⟨-, hrun⟩ | ⟨h, hmem, -⟩
  · rwa [hrun]
  · rwa [hrun]
  · cases hmem

/-- a Maven project that is there already is built inside its directory -/
theorem repository_is_child_foo :
    let e : ManifestEntry := ⟨"https://example.com/foo.git/", "v1"⟩
    let fs : FileStore := ⟨.dir [(reposName, .dir [(Utf8.encode "foo", mavenProject)])], []⟩
    (founder [] []).KeepsOrder ∧ ManifestEntry.lastSegment e.url ∉ ManifestEntry.hollowSegments ∧
      ((process reposShop (founder [] []) e).exec ⟨fs, 0, []⟩).1 = .ok .built ∧
      Acts (founder [] []) (RunsInside e.url (.ofString "repos/foo")) (IsOwnFile (.ofString "repos/foo")) ⟨fs, 0, []⟩
        ((process reposShop (founder [] []) e).exec ⟨fs, 0, []⟩).2 := by
  intro e fs
  have hsegment : ManifestEntry.lastSegment e.url ∉ ManifestEntry.hollowSegments := by decide +kernel
  have hname : e.dirName ∉ descriptorNames := by decide +kernel
  have hdir : reposShop.dirOf e = .ofString "repos/foo" := by decide +kernel
  obtain ⟨-, -, hacts, -⟩ :=
    (repository_is_child_unless_hollow reposShop (founder [] []) (founder_keepsOrder []) e).1 hsegment
  have hfoo := hacts ⟨fs, 0, []⟩ (by decide +kernel) fun h => absurd h hname
  rw [hdir] at hfoo
  exact ⟨founder_keepsOrder [], hsegment, by decide +kernel, hfoo⟩

/-- a manifest can ask for the directory above the directory of repositories: commands are run there, and the markers
are written there -/
theorem repository_above_repos :
    let e : ManifestEntry := ⟨"https://example.com/..", "v1"⟩
    let fs : FileStore := ⟨.dir [(Utf8.encode "pom.xml", .file [] false), (reposName, .empty)], []⟩
    let w' := ((process reposShop (founder [] []) e).exec ⟨fs, 0, []⟩).2
    Manifest.parse "https://example.com/.. v1\n" = .ok [e] ∧ e.repoName = ".." ∧
      fs.Enters (.ofString "repos/..") [] ∧
      w'.issued.length = 3 ∧ (∀ i ∈ w'.issued, i.command.cwd = some (.ofString "repos/..")) ∧
      ∀ marker ∈ [builtMarker, libsMarker],
        fs.root.view [Utf8.encode marker] = none ∧ w'.files.root.view [Utf8.encode marker] = some (.file []) := by
  intro e fs w'
  have hup : fs.Enters (.ofString "repos/..") [] := by
    refine ⟨rfl, ?_, rfl⟩
    rw [show (segmentsOf (.ofString "repos/..")).map Step.ofSegment = [.down reposName, .up] by decide +kernel]
    exact .enter (isBarred_of_ne (by simp) _) (by decide +kernel) (by decide +kernel) (.up .done)
  exact ⟨by decide +kernel, by decide +kernel, hup, by decide +kernel, by decide +kernel, by decide +kernel⟩

end Repository

end Benchwork.Build
