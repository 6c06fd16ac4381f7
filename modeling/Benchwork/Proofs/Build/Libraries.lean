/-
Where libraries are copied to.

The line that copies the libraries of a Maven project has the path of their directory in it, and a line is cut into words
at its blanks. So the directory reaches Maven as one argument exactly if its path is a text without blanks
(`copiesTo_iff`). That path is made of the directory of the repository, and of the current directory if the former is
relative; it has no blanks exactly if these have none (`unbroken_libraryDir`).
-/
import Benchwork.Proofs.Build.Founder
import Benchwork.Proofs.Build.Plan
import Benchwork.Proofs.Files.Paths
import Benchwork.Proofs.Text.Words

namespace Benchwork

open Benchwork.Text

namespace Path

/-! ## Paths without blanks -/

theorem isSeparator_slash : IsSeparator slash := ⟨by decide, by decide⟩

theorem unbroken_join {p q : Path} (hq : q.isAbsolute = false) :
    Unbroken (p.join q).bytes ↔ Unbroken p.bytes ∧ Unbroken q.bytes := by
  rcases join_bytes (p := p) hq with ⟨hjoin, hnil | hlast⟩ | hjoin
  · rw [hjoin, hnil, List.nil_append]
    simp [unbroken_nil]
  · obtain ⟨a, ha⟩ := List.getLast?_eq_some_iff.1 hlast
    rw [hjoin, ha, List.append_assoc, List.singleton_append, isSeparator_slash.unbroken_append,
      isSeparator_slash.unbroken_append]
    simp [unbroken_nil]
  · rw [hjoin, isSeparator_slash.unbroken_append]

theorem unbroken_dot : Unbroken [dot] := ⟨".", by decide +kernel, by simp [isBlank]⟩

theorem unbroken_foldl_join {segments : List Name} (h : ∀ s ∈ segments, slash ∉ s) (p : Path) :
    Unbroken (segments.foldl (fun q s => q.join ⟨s⟩) p).bytes ↔ Unbroken p.bytes ∧ ∀ s ∈ segments, Unbroken s := by
  induction segments generalizing p with
  | nil => simp
  | cons s segments ih =>
    obtain ⟨hs, hrest⟩ := List.forall_mem_cons.1 h
    rw [List.foldl_cons, ih hrest, unbroken_join (isAbsolute_of_not_mem hs), List.forall_mem_cons, and_assoc]

/-- an absolute path has no blanks exactly if the path has none, and the current directory has none where it counts -/
theorem unbroken_absolute (cwd p : Path) :
    Unbroken (absolute cwd p).bytes ↔ Unbroken p.bytes ∧ (p.isAbsolute = false → Unbroken cwd.bytes) := by
  have hslash : ∀ s ∈ (p.bytes.splitOn slash).filter isProper, slash ∉ s :=
    fun s hs => not_mem_of_mem_splitOn (List.mem_of_mem_filter hs)
  have hproper : (∀ s ∈ (p.bytes.splitOn slash).filter isProper, Unbroken s) ↔ Unbroken p.bytes := by
    have hpieces : Unbroken p.bytes ↔ _ := isSeparator_slash.unbroken_splitOn
    rw [hpieces]
    constructor
    · intro h s hs
      by_cases hp : isProper s = true
      · exact h s (List.mem_filter.2 ⟨hs, hp⟩)
      · have hempty : s = [] ∨ s = [dot] := by
          by_contra hne
          rw [not_or] at hne
          exact hp (by simpa [isProper] using hne)
        rcases hempty with rfl | rfl
        · exact unbroken_nil
        · exact unbroken_dot
    · exact fun h s hs => h s (List.mem_of_mem_filter hs)
  have hwhole : ∀ lead : List UInt8, Unbroken (((p.bytes.splitOn slash).filter isProper).foldl
      (fun (q : Path) s => q.join ⟨s⟩) ⟨lead⟩).bytes ↔ Unbroken lead ∧ Unbroken p.bytes := by
    intro lead
    rw [unbroken_foldl_join hslash, hproper]
  have hend : ∀ q : Path, Unbroken (if p.bytes.getLast? = some slash then q.join ⟨[]⟩ else q).bytes ↔
      Unbroken q.bytes := by
    intro q
    split_ifs
    · rw [unbroken_join rfl]
      simp [unbroken_nil]
    · rfl
  rw [absolute, hend, hwhole, and_comm]
  cases habs : p.isAbsolute with
  | false => simp
  | true =>
    have hroot : Unbroken [slash] := isSeparator_slash.unbroken_append.2 ⟨unbroken_nil, unbroken_nil⟩
    have hdouble : Unbroken [slash, slash] := isSeparator_slash.unbroken_append.2 ⟨hroot, unbroken_nil⟩
    simp only [Bool.not_true, Bool.false_eq_true, if_false]
    split_ifs <;> simp [hroot, hdouble]

end Path

namespace Build.Repository

open Session

variable {σ : Type} {shop : Workshop} {runner : Runner σ}

/-! ## The place to copy to -/

/-- the command has Maven copy libraries to `libs`, and do nothing else -/
def CopiesTo (libs : Path) (c : Command) : Prop :=
  c.program = "mvn" ∧
    ∃ target, libs.text? = some target ∧ c.args = ["dependency:copy-dependencies", "-DoutputDirectory=" ++ target]

/-- the place to copy to is one argument exactly if it is a text without blanks -/
theorem copiesTo_iff {libs : Path} {c : Command} (hprogram : c.program = "mvn")
    (hargs : c.args = "dependency:copy-dependencies" :: words ("-DoutputDirectory=" ++ libs.display)) :
    CopiesTo libs c ↔ Unbroken libs.bytes := by
  have hword : ∀ target : String, words ("-DoutputDirectory=" ++ target) = ["-DoutputDirectory=" ++ target] ↔
      ∀ c ∈ target.toList, isBlank c = false :=
    words_append_eq_singleton (by decide) (by simp [isBlank])
  constructor
  · rintro ⟨-, target, htext, htarget⟩
    have hdisplay : libs.display = target := Utf8.lossy_of_decode htext
    rw [hargs, hdisplay] at htarget
    exact ⟨target, htext, (hword target).1 (List.cons.inj htarget).2⟩
  · rintro ⟨target, htext, hall⟩
    have hdisplay : libs.display = target := Utf8.lossy_of_decode htext
    refine ⟨hprogram, target, htext, ?_⟩
    rw [hargs, hdisplay, (hword target).2 hall]

theorem unbroken_libraryDir (fs : FileStore) (dir : Path) :
    Unbroken (libraryDir fs dir).bytes ↔
      Unbroken dir.bytes ∧ (dir.isAbsolute = false → Unbroken fs.cwdPath.bytes) := by
  have hlibs : (Path.ofString "libs").isAbsolute = false := by decide +kernel
  have hword : Unbroken (Path.ofString "libs").bytes := ⟨"libs", by decide +kernel, by simp [isBlank]⟩
  have habs : (inside dir "libs").isAbsolute = dir.isAbsolute := by
    by_cases hdir : dir.bytes = []
    · have hrel : dir.isAbsolute = false := by simp [Path.isAbsolute, hdir]
      rw [inside, Path.join, if_neg (by simp [hlibs]), if_pos (.inl hdir), hdir, hrel]
      exact hlibs
    · exact Path.isAbsolute_join hdir hlibs
  rw [libraryDir, Path.unbroken_absolute, habs, inside, Path.unbroken_join hlibs]
  simp [hword]

/-- all that is issued to get at the libraries of a Maven project -/
theorem issued_copyMaven {dir : Path} {poms : List Path} {w : World σ} {i : Issued}
    (h : i ∈ ((copyLibraries shop runner (.maven poms) dir).exec w).2.since w.issued.length) :
    ∃ line ∈ [mavenInstall, mavenCopy (libraryDir w.files dir)], ∃ pom ∈ poms, ∃ rt ∈ shop.runtimes,
      i.command = attempt line pom rt := by
  have hcourse : Course shop runner (.ok ()) (copyLibraries shop runner (.maven poms) dir) w _ :=
    copyMaven_course poms w
  obtain ⟨done, rest, log, result, hwork, hfollowed, -⟩ := hcourse
  rw [World.since, hfollowed.issued, List.drop_left] at h
  obtain ⟨x, hx, hc⟩ := hfollowed.issues i h
  obtain ⟨pom, hpom, hx⟩ := List.mem_flatMap.1 (hwork ▸ List.mem_append_left rest hx)
  simp only [List.mem_cons, List.not_mem_nil, or_false] at hx
  rcases hx with rfl | rfl
  · obtain ⟨rt, hrt, hc⟩ := hc
    exact ⟨mavenInstall, by simp, pom, hpom, rt, hrt, hc⟩
  · obtain ⟨rt, hrt, hc⟩ := hc
    exact ⟨_, by simp, pom, hpom, rt, hrt, hc⟩

/-- **Libraries are copied to the repository exactly if its path has no blanks.** Whatever is issued for the libraries
of a Maven project installs it or copies libraries; and it copies them to the directory of libraries, as its only other
argument, exactly if the directory of the repository has no blanks and, where that one is relative, the current
directory is a text and has none. -/
theorem copies_to_libs_iff_unbroken (shop : Workshop) (runner : Runner σ) (dir : Path) (text : String)
    (htext : dir.text? = some text) (poms : List Path) (w : World σ) :
    let libs := libraryDir w.files dir
    ∀ i ∈ ((copyLibraries shop runner (.maven poms) dir).exec w).2.since w.issued.length,
      i.command.program = "mvn" ∧
      (i.command.args = ["install", "-DskipTests"] ∨
        i.command.args = "dependency:copy-dependencies" :: words ("-DoutputDirectory=" ++ libs.display) ∧
        (CopiesTo libs i.command ↔
          (∀ c ∈ text.toList, isBlank c = false) ∧ (dir.isAbsolute = false → Unbroken w.files.cwdPath.bytes))) := by
  intro libs i hi
  obtain ⟨line, hline, pom, -, rt, -, hc⟩ := issued_copyMaven hi
  simp only [List.mem_cons, List.not_mem_nil, or_false] at hline
  have hprogram : i.command.program = (Command.ofLine line).program := by
    rw [hc]
    rfl
  have hargs : i.command.args = (Command.ofLine line).args := by
    rw [hc]
    rfl
  rcases hline with rfl | rfl
  · rw [hprogram, hargs]
    exact ⟨by decide +kernel, .inl (by decide +kernel)⟩
  · rw [ofLine_mavenCopy] at hprogram hargs
    have hdir : Unbroken dir.bytes ↔ ∀ c ∈ text.toList, isBlank c = false := by
      constructor
      · rintro ⟨t, ht, hall⟩
        obtain rfl : t = text := Option.some.inj (ht.symm.trans htext)
        exact hall
      · exact fun h => ⟨text, htext, h⟩
    refine ⟨hprogram, .inr ⟨hargs, ?_⟩⟩
    rw [copiesTo_iff hprogram hargs, unbroken_libraryDir, hdir]

/-- libraries of a project at the path `dir` are copied, from a current directory `/` -/
def copiedFrom (dir : Path) : World Nat :=
  ((copyLibraries reposShop (founder [] []) (.maven [inside dir "pom.xml"]) dir).exec ⟨⟨.empty, []⟩, 0, []⟩).2

/-- no blank anywhere, and the libraries are copied to where they belong -/
theorem copies_to_libs_foo :
    (Path.ofString "repos/foo").text? = some "repos/foo" ∧
      ∃ i ∈ (copiedFrom (.ofString "repos/foo")).issued, CopiesTo (.ofString "/repos/foo/libs") i.command := by
  have htext : (Path.ofString "repos/foo").text? = some "repos/foo" := by decide +kernel
  have hlibs : libraryDir ⟨.empty, []⟩ (.ofString "repos/foo") = .ofString "/repos/foo/libs" := by decide +kernel
  obtain ⟨i, hi, hcopy⟩ : ∃ i ∈ (copiedFrom (.ofString "repos/foo")).issued,
      i.command.args ≠ ["install", "-DskipTests"] := by decide +kernel
  have hspec := copies_to_libs_iff_unbroken reposShop (founder [] []) (.ofString "repos/foo") "repos/foo" htext
    [inside (.ofString "repos/foo") "pom.xml"] ⟨⟨.empty, []⟩, 0, []⟩ i hi
  have hroot : Unbroken (FileStore.cwdPath ⟨.empty, []⟩).bytes := ⟨"/", by decide +kernel, by simp [isBlank]⟩
  rw [hlibs] at hspec
  exact ⟨htext, i, hi, (hspec.2.resolve_left hcopy).2.2 ⟨by simp [isBlank], fun _ => hroot⟩⟩

/-- a blank in the path of the repository, and Maven is told to copy to another place, with an argument more -/
theorem copies_elsewhere_over_blank :
    (Path.ofString "my repos/foo").text? = some "my repos/foo" ∧
      libraryDir ⟨.empty, []⟩ (.ofString "my repos/foo") = .ofString "/my repos/foo/libs" ∧
      ∃ i ∈ (copiedFrom (.ofString "my repos/foo")).issued,
        i.command.program = "mvn" ∧
        i.command.args = ["dependency:copy-dependencies", "-DoutputDirectory=/my", "repos/foo/libs"] ∧
        ¬ CopiesTo (.ofString "/my repos/foo/libs") i.command := by
  obtain ⟨i, hi, hprogram, hargs⟩ : ∃ i ∈ (copiedFrom (.ofString "my repos/foo")).issued, i.command.program = "mvn" ∧
      i.command.args = ["dependency:copy-dependencies", "-DoutputDirectory=/my", "repos/foo/libs"] := by
    decide +kernel
  refine ⟨by decide +kernel, by decide +kernel, i, hi, hprogram, hargs, ?_⟩
  rintro ⟨-, target, -, htwo⟩
  have hlength := congrArg List.length (hargs.symm.trans htwo)
  simp at hlength

end Build.Repository

end Benchwork
