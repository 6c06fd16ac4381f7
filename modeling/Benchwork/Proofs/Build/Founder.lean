/-
A runner that clones into `repos`.

It fails the calls of given numbers. A clone of a project that it hosts puts the project's tree below `repos` if that
place is free; any other command succeeds and does nothing. `founder_cases` says all that it can do. Its runs show that
what is assumed of runners elsewhere can be met.
-/
import Benchwork.Proofs.Build.Stages

namespace Benchwork.Build.Repository

open Benchwork.Text

/-- a workshop with one runtime, whose directory of repositories is `repos` -/
def reposShop : Workshop := ⟨Path.ofString "repos", [⟨"jdk", "/jdk"⟩]⟩

def reposName : Name := Utf8.encode "repos"

/-- a project that can be cloned, with the name of its directory -/
structure Hosted where
  url : String
  name : String
  tree : Node

namespace Hosted

def dirName (h : Hosted) : Name := Utf8.encode h.name

def dir (h : Hosted) : Path := reposShop.reposDir.join ⟨h.dirName⟩

def cloning (h : Hosted) : Command := cloneCommand h.url ("repos/" ++ h.name)

/-- the project is a directory with a name that can be asked for -/
structure Valid (h : Hosted) : Prop where
  kind : h.tree.kind = .dir
  ordinary : Path.IsOrdinary h.dirName
  length : h.dirName.length ≤ FileStore.nameLimit
  clean : 0 ∉ h.dir.bytes
  short : h.dir.bytes.length ≤ FileStore.pathLimit
  text : h.dir.text? = some ("repos/" ++ h.name)

instance (h : Hosted) : Decidable h.Valid :=
  decidable_of_iff (h.tree.kind = .dir ∧ Path.IsOrdinary h.dirName ∧ h.dirName.length ≤ FileStore.nameLimit ∧
      0 ∉ h.dir.bytes ∧ h.dir.bytes.length ≤ FileStore.pathLimit ∧ h.dir.text? = some ("repos/" ++ h.name))
    ⟨fun ⟨h₁, h₂, h₃, h₄, h₅, h₆⟩ => ⟨h₁, h₂, h₃, h₄, h₅, h₆⟩, fun ⟨h₁, h₂, h₃, h₄, h₅, h₆⟩ => ⟨h₁, h₂, h₃, h₄, h₅, h₆⟩⟩

end Hosted

def founder (hosted : List Hosted) (failing : List Nat) : Runner Nat where
  run c calls fs :=
    if calls ∈ failing then (.error (.commandFailed c.line (some 1)), calls + 1, fs.root)
    else
      match hosted.find? (·.cloning = c) with
      | none => (.ok (), calls + 1, fs.root)
      | some h =>
        if fs.cwd = [] ∧ fs.root.view [reposName] = some .dir ∧ fs.root.view [reposName, h.dirName] = none then
          (.ok (), calls + 1, (fs.put [reposName, h.dirName] h.tree).root)
        else (.error (.commandFailed c.line (some 128)), calls + 1, fs.root)

theorem founder_cases (hosted : List Hosted) (failing : List Nat) (c : Command) (calls : Nat) (fs : FileStore) :
    (∃ e, (founder hosted failing).run c calls fs = (.error e, calls + 1, fs.root)) ∨
    ((∀ h ∈ hosted, h.cloning ≠ c) ∧ (founder hosted failing).run c calls fs = (.ok (), calls + 1, fs.root)) ∨
    ∃ h ∈ hosted, c = h.cloning ∧ fs.cwd = [] ∧ fs.root.view [reposName] = some .dir ∧
      fs.root.view [reposName, h.dirName] = none ∧
      (founder hosted failing).run c calls fs = (.ok (), calls + 1, (fs.put [reposName, h.dirName] h.tree).root) := by
  by_cases hfail : calls ∈ failing
  · exact .inl ⟨_, if_pos hfail⟩
  · have hrun : (founder hosted failing).run c calls fs = _ := if_neg hfail
    rw [hrun]
    cases hfind : hosted.find? (·.cloning = c) with
    | none => exact .inr (.inl ⟨by simpa using hfind, rfl⟩)
    | some h =>
      dsimp only
      split_ifs with hplace
      · have hc : h.cloning = c := by simpa using List.find?_some hfind
        exact .inr (.inr ⟨h, List.mem_of_find?_eq_some hfind, hc.symm, hplace.1, hplace.2.1, hplace.2.2, rfl⟩)
      · exact .inl ⟨_, rfl⟩

/-- the directory of repositories is where the runner looks for it -/
theorem leads_repos {fs : FileStore} (hcwd : fs.cwd = []) (hd : fs.root.view [reposName] = some .dir) :
    fs.Leads .target reposShop.reposDir (.found [reposName]) := by
  refine ⟨by decide +kernel, by decide +kernel, by decide +kernel, ?_, ?_⟩
  · rw [FileStore.start, hcwd, ite_self]
    exact Node.view_root hd
  · rw [show FileStore.stepsOf reposShop.reposDir = [.down reposName] by decide +kernel]
    rw [FileStore.start, hcwd, ite_self]
    exact .enter (FileStore.isBarred_nil _) (by decide +kernel) hd .done

/-- the path of a project leads to the place where the runner puts it -/
theorem Hosted.Valid.leads {h : Hosted} (hvalid : h.Valid) {fs : FileStore} (hcwd : fs.cwd = [])
    (hd : fs.root.view [reposName] = some .dir) (hv : fs.root.view [reposName, h.dirName] = some .dir) :
    fs.Leads .target h.dir (.found [reposName, h.dirName]) :=
  ((leads_repos hcwd hd).enters hd).child hvalid.ordinary hvalid.length hvalid.clean hvalid.short hv

/-- the path of a project leads to it when the runner has put it there -/
theorem Hosted.Valid.leads_put {h : Hosted} (hvalid : h.Valid) {fs : FileStore} (hcwd : fs.cwd = [])
    (hd : fs.root.view [reposName] = some .dir) (hfree : fs.root.view [reposName, h.dirName] = none) :
    (fs.put [reposName, h.dirName] h.tree).Leads .target h.dir (.found [reposName, h.dirName]) ∧
      (fs.put [reposName, h.dirName] h.tree).root.view [reposName, h.dirName] = some .dir := by
  have hself : (fs.put [reposName, h.dirName] h.tree).root.view [reposName, h.dirName] = some .dir :=
    (Node.view_set hd h.dirName h.tree _).trans (by simp [hvalid.kind])
  exact ⟨hvalid.leads hcwd ((FileStore.put_extends hd hfree h.tree).dir _ hd) hself, hself⟩

def mavenProject : Node := .dir [(Utf8.encode Descriptor.maven, .file [] false)]

end Benchwork.Build.Repository
