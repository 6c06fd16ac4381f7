/-
Where the runtimes of a build come from.

Runtimes are named in the arguments or, if there are none, in a variable with commas in between. Read one by one or from
the variable, texts without commas that are not blank come to the same (`arguments_agree_with_variable`): the runtimes in
their order, or a failure that names the first text which is no runtime.

A configuration that is accepted has a runtime unless the variable is all there is and has nothing but commas and blanks
in it, at least one comma among them (`OnlyCommas`). A value of blanks alone is passed over, but this one is read, and as
a list without items. With a runtime no build fails for want of one, and without one every build step does
(`accepted_config_can_build_iff`, `commas_leave_no_runtime`).
-/
import Benchwork.Build.Host
import Benchwork.Build.Scripted
import Benchwork.CommandLine.Build
import Benchwork.Proofs.Benchmark.Results
import Benchwork.Proofs.Build.Supply
import Benchwork.Proofs.Text.Words

namespace Benchwork

open Benchwork.Text Benchwork.Benchmark

/-! ## Texts of runtimes -/

namespace Build.JavaRuntime

theorem parse_eq_error {text : String} {e : BuildError} (h : parse text = .error e) : e = .invalidRuntime text := by
  rw [parse, parseChars] at h
  split at h
  · split_ifs at h
    rw [← Except.error.inj h, String.ofList_toList]
  · rw [← Except.error.inj h, String.ofList_toList]

theorem parseEach_map (texts : List String) : parseEach (texts.map String.toList) = texts.mapM parse := by
  rw [parseEach, List.mapM_map]
  rfl

/-- every text is read, so there is nothing only if there was nothing to read -/
theorem parseEach_eq_nil {items : List (List Char)} {runtimes : List JavaRuntime}
    (h : parseEach items = .ok runtimes) : runtimes = [] ↔ items = [] := by
  have hlength := (mapM_eq_ok h).length_eq
  rw [← List.length_eq_zero_iff, ← List.length_eq_zero_iff, hlength]

end Build.JavaRuntime

/-- a process succeeds, fails or cannot be started -/
theorem Build.Host.runner_plain (environment : Shell.Environment) : (runner environment).Plain := by
  have hanswer : ∀ (c : Build.Command) (ending : Shell.Ending), answer c ending ≠ .error .noRuntimes := by
    intro c ending
    unfold answer
    split <;> simp
  intro c streams files
  unfold runner
  dsimp only
  cases prepare environment c streams files with
  | error e => simp
  | ok started => exact hanswer c _

namespace CommandLine.BuildConfig

open Benchwork.Build

/-- nothing but commas and blanks, and a comma among them -/
def OnlyCommas (value : String) : Prop := ',' ∈ value.toList ∧ ∀ c ∈ value.toList, c = ',' ∨ isBlank c = true

theorem filter_items_eq_nil {value : String} :
    ((value.toList.splitOn ',').filter fun item => !item.all isBlank) = [] ↔
      ∀ c ∈ value.toList, c = ',' ∨ isBlank c = true := by
  rw [← forall_mem_splitOn, List.filter_eq_nil_iff]
  simp

theorem not_onlyCommas_of_blank {value : String} (h : isBlankText value = true) : ¬ OnlyCommas value := by
  rintro ⟨hcomma, -⟩
  have hblank := List.all_eq_true.1 h ',' hcomma
  simp [isBlank] at hblank

theorem onlyCommas_iff {value : String} (h : isBlankText value = false) :
    OnlyCommas value ↔ ∀ c ∈ value.toList, c = ',' ∨ isBlank c = true := by
  refine ⟨fun hcommas => hcommas.2, fun hall => ⟨?_, hall⟩⟩
  -- there is a character that is not blank, and it can only be a comma
  obtain ⟨c, hc, hsolid⟩ := List.all_eq_false.1 h
  rcases hall c hc with rfl | hblank
  · exact hc
  · exact absurd hblank hsolid

/-! ## The source that counts -/

theorem chooseRuntimes_of_ne_nil {given : List String} (h : given ≠ []) (environment : Option String) :
    chooseRuntimes given environment = given.mapM JavaRuntime.parse := by
  rw [chooseRuntimes, if_pos h, JavaRuntime.parseEach_map]

theorem chooseRuntimes_variable {value : String} (h : isBlankText value = false) :
    chooseRuntimes [] (some value) = JavaRuntime.parseList value := by
  simp [chooseRuntimes, Option.filter, h]

theorem chooseRuntimes_defaults {environment : Option String}
    (h : ∀ value, environment = some value → isBlankText value = true) :
    chooseRuntimes [] environment = .ok JavaRuntime.defaults := by
  cases environment with
  | none => rfl
  | some value => simp [chooseRuntimes, Option.filter, h value rfl]

/-- the runtimes that are chosen are none only if the variable is all there is and names none -/
theorem chooseRuntimes_eq_nil {given : List String} {environment : Option String} {runtimes : List JavaRuntime}
    (h : chooseRuntimes given environment = .ok runtimes) :
    runtimes = [] ↔ given = [] ∧ ∃ value, environment = some value ∧ OnlyCommas value := by
  by_cases hgiven : given = []
  · subst hgiven
    by_cases hblank : ∀ value, environment = some value → isBlankText value = true
    · rw [chooseRuntimes_defaults hblank] at h
      obtain rfl := Except.ok.inj h
      refine iff_of_false (by simp [JavaRuntime.defaults]) ?_
      rintro ⟨-, value, hvalue, hcommas⟩
      exact not_onlyCommas_of_blank (hblank value hvalue) hcommas
    · push Not at hblank
      obtain ⟨value, rfl, hsolid⟩ := hblank
      have hsolid : isBlankText value = false := by simpa using hsolid
      rw [chooseRuntimes_variable hsolid] at h
      rw [JavaRuntime.parseEach_eq_nil h, filter_items_eq_nil, ← onlyCommas_iff hsolid]
      simp
  · rw [chooseRuntimes, if_pos hgiven] at h
    rw [JavaRuntime.parseEach_eq_nil h, List.map_eq_nil_iff]
    simp [hgiven]

theorem ofParts_eq_ok {manifest : Path} {reposDir : Option Path} {given : List String} {environment : Option String}
    {config : BuildConfig} (h : ofParts manifest reposDir given environment = .ok config) :
    chooseRuntimes given environment = .ok config.runtimes := by
  unfold ofParts at h
  cases hruntimes : chooseRuntimes given environment with
  | error e => rw [hruntimes] at h; cases h
  | ok runtimes =>
    rw [hruntimes] at h
    rw [← Except.ok.inj h]

/-! ## Builds with the runtimes that are chosen -/

/-- **A configuration that is accepted can build**, unless no arguments name runtimes and the variable has only commas
and blanks in it. If it has runtimes, no build step and no run fails for want of them; and if not, every build step
does. -/
theorem accepted_config_can_build_iff {manifest : Path} {reposDir : Option Path} {given : List String}
    {environment : Option String} {config : BuildConfig}
    (h : ofParts manifest reposDir given environment = .ok config) :
    (config.runtimes ≠ [] ↔ ¬ (given = [] ∧ ∃ value, environment = some value ∧ OnlyCommas value)) ∧
      ∀ (σ : Type) (runner : Runner σ), runner.Plain →
        (config.runtimes ≠ [] →
          (∀ line d, (Repository.buildStep ⟨config.reposDir, config.runtimes⟩ runner line d).Supplied) ∧
          ∀ entries, (Repository.run ⟨config.reposDir, config.runtimes⟩ runner entries).Supplied) ∧
        (config.runtimes = [] → ∀ line d w,
          (Repository.buildStep ⟨config.reposDir, config.runtimes⟩ runner line d).exec w = (.error .noRuntimes, w)) := by
  refine ⟨not_congr (chooseRuntimes_eq_nil (ofParts_eq_ok h)), fun σ runner hrunner => ⟨fun hne => ⟨?_, ?_⟩, ?_⟩⟩
  · exact Repository.supplied_buildStep hrunner hne
  · exact Repository.supplied_run hrunner hne
  · exact fun hnil => Repository.exec_buildStep_of_nil hnil runner

/-- empty items next to a runtime do no harm -/
theorem accepted_config_can_build_padded :
    ∃ config, ofParts (.ofString "repos.txt") none [] (some ", ,jdk17=/opt/jdk17,") = .ok config ∧
      config.runtimes = [⟨"jdk17", "/opt/jdk17"⟩] ∧ (Host.runner []).Plain ∧
      ∀ entries, (Repository.run ⟨config.reposDir, config.runtimes⟩ (Host.runner []) entries).Supplied := by
  have hconfig : ofParts (.ofString "repos.txt") none [] (some ", ,jdk17=/opt/jdk17,") =
      .ok ⟨.ofString "repos.txt", .ofString "repos", [⟨"jdk17", "/opt/jdk17"⟩]⟩ := by decide +kernel
  refine ⟨_, hconfig, rfl, Host.runner_plain [], ?_⟩
  exact (((accepted_config_can_build_iff hconfig).2 _ _ (Host.runner_plain [])).1 (by simp)).2

/-- a repository that only has to be built -/
def clonedFiles : FileStore where
  root := .dir [(Utf8.encode "repos", .dir [(Utf8.encode "foo", .dir [(Utf8.encode "pom.xml", .file [] false)])])]
  cwd := []

/-- a variable with a comma in it is accepted and leaves the build without a runtime -/
theorem commas_leave_no_runtime :
    ∃ config, ofParts (.ofString "repos.txt") none [] (some ",") = .ok config ∧ config.runtimes = [] ∧
      ((Repository.run ⟨config.reposDir, config.runtimes⟩ (Scripted.runner [] [])
        [⟨"https://example.com/foo", "v1"⟩]).exec { files := clonedFiles, memory := 0 }).1 = .error .noRuntimes := by
  have hconfig : ofParts (.ofString "repos.txt") none [] (some ",") =
      .ok ⟨.ofString "repos.txt", .ofString "repos", []⟩ := by decide +kernel
  exact ⟨_, hconfig, rfl, by decide +kernel⟩

/-! ## Arguments and variable -/

/-- the variable is read item by item when every item has something in it -/
theorem chooseRuntimes_intercalate {texts : List String} (hne : texts ≠ [])
    (hcomma : ∀ text ∈ texts, ',' ∉ text.toList) (hsolid : ∀ text ∈ texts, isBlankText text = false) :
    chooseRuntimes [] (some (",".intercalate texts)) = texts.mapM JavaRuntime.parse := by
  have hsplit : (",".intercalate texts).toList.splitOn ',' = texts.map String.toList := by
    rw [String.toList_intercalate]
    refine List.splitOn_intercalate ',' ?_ (by simpa using hne)
    simpa using hcomma
  have hitems : (texts.map String.toList).filter (fun item => !item.all isBlank) = texts.map String.toList := by
    rw [List.filter_eq_self]
    intro item hitem
    obtain ⟨text, htext, rfl⟩ := List.mem_map.1 hitem
    rw [Bool.not_eq_true']
    exact hsolid text htext
  have hvalue : isBlankText (",".intercalate texts) = false := by
    -- otherwise the first text would be blank, as all pieces would
    by_contra hblank
    rw [Bool.not_eq_false, isBlankText, List.all_eq_true] at hblank
    obtain ⟨text, rest, rfl⟩ := List.exists_cons_of_ne_nil hne
    have hpieces : ∀ piece ∈ (",".intercalate (text :: rest)).toList.splitOn ',', ∀ c ∈ piece, isBlank c = true :=
      forall_mem_splitOn.2 fun c hc => .inr (hblank c hc)
    rw [hsplit] at hpieces
    have hfirst : isBlankText text = true := List.all_eq_true.2 (hpieces text.toList (by simp))
    rw [hsolid text List.mem_cons_self] at hfirst
    cases hfirst
  rw [chooseRuntimes_variable hvalue, JavaRuntime.parseList, hsplit, hitems, JavaRuntime.parseEach_map]

/-- **Arguments and the variable say the same.** Texts without commas that are not blank come to the same as arguments
and, joined by commas, as the variable. As arguments they win over whatever the variable says. If all of them are
runtimes, these are chosen in their order, and otherwise the first text that is none is reported. -/
theorem arguments_agree_with_variable (manifest : Path) (reposDir : Option Path) {texts : List String} (hne : texts ≠ [])
    (hcomma : ∀ text ∈ texts, ',' ∉ text.toList) (hsolid : ∀ text ∈ texts, isBlankText text = false)
    (environment : Option String) :
    ofParts manifest reposDir texts environment = ofParts manifest reposDir [] (some (",".intercalate texts)) ∧
      ((∃ config, ofParts manifest reposDir texts environment = .ok config ∧
          List.Forall₂ (fun text runtime => JavaRuntime.parse text = .ok runtime) texts config.runtimes) ∨
        ∃ before text after, texts = before ++ text :: after ∧
          (∀ text ∈ before, ∃ runtime, JavaRuntime.parse text = .ok runtime) ∧
          (∀ runtime, JavaRuntime.parse text ≠ .ok runtime) ∧
          ofParts manifest reposDir texts environment = .error (.invalidRuntime text)) := by
  have hgiven : chooseRuntimes texts environment = texts.mapM JavaRuntime.parse :=
    chooseRuntimes_of_ne_nil hne environment
  constructor
  · rw [ofParts, ofParts, hgiven, chooseRuntimes_intercalate hne hcomma hsolid]
  · rw [ofParts, hgiven]
    cases hread : texts.mapM JavaRuntime.parse with
    | ok runtimes => exact .inl ⟨_, rfl, mapM_eq_ok hread⟩
    | error e =>
      obtain ⟨_, before, text, after, htexts, -, hbefore, htext⟩ := mapM_eq_error_iff.1 hread
      refine .inr ⟨before, text, after, htexts, hbefore, fun runtime hok => ?_, ?_⟩
      · cases htext.symm.trans hok
      · rw [JavaRuntime.parse_eq_error htext]
        rfl

/-- a runtime with an equality sign in its home and a blank in front, and two texts that are no runtimes -/
def mixedTexts : List String := ["\u00a0jdk17=/opt/a=b", "broken", "=/opt/jdk"]

/-- the first of the two is reported, though the variable has a runtime -/
theorem arguments_agree_with_variable_mixed :
    mixedTexts ≠ [] ∧ (∀ text ∈ mixedTexts, ',' ∉ text.toList) ∧ (∀ text ∈ mixedTexts, isBlankText text = false) ∧
      JavaRuntime.parse "\u00a0jdk17=/opt/a=b" = .ok ⟨"jdk17", "/opt/a=b"⟩ ∧
      ofParts (.ofString "repos.txt") none mixedTexts (some "jdk8=/opt/jdk8") = .error (.invalidRuntime "broken") ∧
      ofParts (.ofString "repos.txt") none [] (some (",".intercalate mixedTexts)) = .error (.invalidRuntime "broken") := by
  have hcomma : ∀ text ∈ mixedTexts, ',' ∉ text.toList := by decide +kernel
  have hsolid : ∀ text ∈ mixedTexts, isBlankText text = false := by decide +kernel
  have hgiven : ofParts (.ofString "repos.txt") none mixedTexts (some "jdk8=/opt/jdk8") =
      .error (.invalidRuntime "broken") := by
    decide +kernel
  have hsame := (arguments_agree_with_variable (.ofString "repos.txt") none (List.cons_ne_nil _ _) hcomma hsolid
    (some "jdk8=/opt/jdk8")).1
  exact ⟨List.cons_ne_nil _ _, hcomma, hsolid, by decide +kernel, hgiven, hsame.symm.trans hgiven⟩

end CommandLine.BuildConfig

end Benchwork
