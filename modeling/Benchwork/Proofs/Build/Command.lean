/-
Commands as they are built up and as they are shown.

A command is made of a program or of a line (`Fresh`) and then changed step by step. `Follows` says what it is after
some steps, and is kept by every further one (`Follows.apply`). The variables are where the steps meet: a step that sets
one takes an earlier setting away, so what is left are the last settings (`Records`), each at the place of its step. From
this follows what a variable is set to, that none is set twice, and their order (`build_records_last_settings`).

The line of a command has one space between its words. Read again, it gives the command that it was read from, and any
command whose program and arguments are words (`lines_read_back`).
-/
import Mathlib.Tactic
import Benchwork.Build.Command
import Benchwork.Proofs.Text.Words

namespace Benchwork.Build.Command

open Benchwork.Text

/-! ## Steps -/

inductive Step where
  | arg (a : String)
  | inDir (dir : Path)
  | withEnv (key value : String)
  deriving DecidableEq, Repr

def Step.arg? : Step → Option String
  | .arg a => some a
  | _ => none

def Step.dir? : Step → Option Path
  | .inDir dir => some dir
  | _ => none

def apply (c : Command) : Step → Command
  | .arg a => c.arg a
  | .inDir dir => c.inDir dir
  | .withEnv key value => c.withEnv key value

def build (c : Command) (steps : List Step) : Command := steps.foldl apply c

theorem build_append_singleton (c : Command) (steps : List Step) (step : Step) :
    c.build (steps ++ [step]) = (c.build steps).apply step := by
  simp [build]

/-- a command before any step: a program alone, or the words of a line -/
inductive Fresh : Command → Prop
  | ofProgram (program : String) : Fresh { program }
  | ofLine (text : String) : Fresh (ofLine text)

theorem Fresh.cwd_env {c : Command} (h : c.Fresh) : c.cwd = none ∧ c.env = [] := by
  cases h with
  | ofProgram program => exact ⟨rfl, rfl⟩
  | ofLine text =>
    rw [Command.ofLine]
    split <;> exact ⟨rfl, rfl⟩

variable {start c : Command} {steps : List Step} {step : Step} {env : List (String × String)} {i j : Nat}
  {key value : String}

/-! ## Last settings -/

/-- step `i` sets the variable `key` to `value`, and no later step sets it -/
structure SetLast (steps : List Step) (i : Nat) (key value : String) : Prop where
  here : steps[i]? = some (.withEnv key value)
  last : ∀ j, i < j → ∀ other, steps[j]? ≠ some (.withEnv key other)

theorem SetLast.unique {v w : String} (h : SetLast steps i key v) (h' : SetLast steps j key w) : i = j ∧ v = w := by
  rcases Nat.lt_trichotomy i j with hlt | rfl | hlt
  · exact absurd h'.here (h.last j hlt w)
  · exact ⟨rfl, (Step.withEnv.inj (Option.some.inj (h.here.symm.trans h'.here))).2⟩
  · exact absurd h.here (h'.last i hlt v)

theorem SetLast.lt_length (h : SetLast steps i key value) : i < steps.length := (List.getElem?_eq_some_iff.1 h.here).1

/-- a further step that does not set a variable leaves the last setting of it alone -/
theorem setLast_append_singleton_of_ne (hstep : ∀ other, step ≠ .withEnv key other) :
    SetLast (steps ++ [step]) i key value ↔ SetLast steps i key value := by
  have hat : ∀ (j : Nat) (other : String),
      (steps ++ [step])[j]? = some (.withEnv key other) ↔ steps[j]? = some (.withEnv key other) := by
    intro j other
    rcases Nat.lt_trichotomy j steps.length with hlt | rfl | hlt
    · rw [List.getElem?_append_left hlt]
    · simp [hstep other]
    · rw [List.getElem?_eq_none (by simp; omega), List.getElem?_eq_none hlt.le]
  constructor
  · intro h
    exact ⟨(hat i value).1 h.here, fun j hij other hj => h.last j hij other ((hat j other).2 hj)⟩
  · intro h
    exact ⟨(hat i value).2 h.here, fun j hij other hj => h.last j hij other ((hat j other).1 hj)⟩

theorem setLast_append_withEnv {v : String} :
    SetLast (steps ++ [.withEnv key v]) i key value ↔ i = steps.length ∧ value = v := by
  have hnew : SetLast (steps ++ [.withEnv key v]) steps.length key v := by
    refine ⟨by simp, fun j hj other => ?_⟩
    rw [List.getElem?_eq_none (by simp; omega)]
    simp
  constructor
  · exact fun h => h.unique hnew
  · rintro ⟨rfl, rfl⟩
    exact hnew

/-- a variable that is set is set last by some step -/
theorem exists_setLast (h : .withEnv key value ∈ steps) :
    ∃ i last, SetLast steps i key last := by
  induction steps using List.reverseRecOn with
  | nil => cases h
  | append_singleton steps step ih =>
    by_cases hstep : ∃ other, step = .withEnv key other
    · obtain ⟨other, rfl⟩ := hstep
      exact ⟨steps.length, other, setLast_append_withEnv.2 ⟨rfl, rfl⟩⟩
    · rw [not_exists] at hstep
      rcases List.mem_append.1 h with h | h
      · obtain ⟨i, last, hlast⟩ := ih h
        exact ⟨i, last, (setLast_append_singleton_of_ne hstep).2 hlast⟩
      · exact absurd (List.mem_singleton.1 h).symm (hstep value)

/-! ## What the steps leave -/

/-- the variables are the last settings, in the order of their steps -/
structure Records (steps : List Step) (env : List (String × String)) : Prop where
  mem : ∀ key value, (key, value) ∈ env ↔ ∃ i, SetLast steps i key value
  ordered : env.Pairwise fun e f => ∃ i j, i < j ∧ SetLast steps i e.1 e.2 ∧ SetLast steps j f.1 f.2

theorem Records.append_other (h : Records steps env) (hstep : ∀ key value, step ≠ .withEnv key value) :
    Records (steps ++ [step]) env where
  mem key value := by simp only [h.mem, setLast_append_singleton_of_ne (hstep key)]
  ordered := by simpa only [setLast_append_singleton_of_ne (hstep _)] using h.ordered

theorem Records.append_withEnv (h : Records steps env) (key value : String) :
    Records (steps ++ [.withEnv key value]) (env.filter (·.1 ≠ key) ++ [(key, value)]) := by
  -- the entries that stay are of other variables, whose last settings are where they were
  have hstay : ∀ {i k v}, k ≠ key → (SetLast (steps ++ [.withEnv key value]) i k v ↔ SetLast steps i k v) :=
    fun hk => setLast_append_singleton_of_ne fun _ heq => hk (Step.withEnv.inj heq).1.symm
  constructor
  · intro k v
    simp only [List.mem_append, List.mem_filter, List.mem_singleton, decide_eq_true_eq, h.mem]
    by_cases hk : k = key
    · subst hk
      simp [setLast_append_withEnv]
    · simp [hk, hstay hk]
  · refine List.pairwise_append.2 ⟨?_, List.pairwise_singleton _ _, fun e he f hf => ?_⟩
    · rw [List.pairwise_filter]
      refine h.ordered.imp fun hlt he hf => ?_
      simpa only [hstay (of_decide_eq_true he), hstay (of_decide_eq_true hf)] using hlt
    · obtain ⟨hmem, hne⟩ := List.mem_filter.1 he
      obtain ⟨i, hi⟩ := (h.mem e.1 e.2).1 hmem
      obtain rfl := List.mem_singleton.1 hf
      exact ⟨i, steps.length, hi.lt_length, (hstay (of_decide_eq_true hne)).2 hi, setLast_append_withEnv.2 ⟨rfl, rfl⟩⟩

/-- what the command `start` is after some steps -/
structure Follows (start : Command) (steps : List Step) (c : Command) : Prop where
  program : c.program = start.program
  args : c.args = start.args ++ steps.filterMap Step.arg?
  cwd : c.cwd = (steps.filterMap Step.dir?).getLast?
  env : Records steps c.env

theorem Follows.apply (h : Follows start steps c) (step : Step) :
    Follows start (steps ++ [step]) (c.apply step) := by
  cases step with
  | arg a =>
    refine ⟨h.program, ?_, ?_, h.env.append_other (by simp)⟩
    · simp [Command.apply, arg, h.args, Step.arg?]
    · simp [Command.apply, arg, h.cwd, Step.dir?]
  | inDir dir =>
    refine ⟨h.program, ?_, ?_, h.env.append_other (by simp)⟩
    · simp [Command.apply, inDir, h.args, Step.arg?]
    · simp [Command.apply, inDir, Step.dir?]
  | withEnv key value =>
    refine ⟨h.program, ?_, ?_, h.env.append_withEnv key value⟩
    · simp [Command.apply, withEnv, h.args, Step.arg?]
    · simp [Command.apply, withEnv, h.cwd, Step.dir?]

theorem Fresh.follows_build (h : start.Fresh) (steps : List Step) : Follows start steps (start.build steps) := by
  -- from the end, since what the last step does not touch is as the steps before it left it
  induction steps using List.reverseRecOn with
  | nil =>
    obtain ⟨hcwd, henv⟩ := h.cwd_env
    refine ⟨rfl, by simp [build], by simp [build, hcwd], ?_⟩
    rw [build, List.foldl_nil, henv]
    refine ⟨fun key value => ⟨by simp, ?_⟩, .nil⟩
    rintro ⟨i, hi⟩
    simpa using hi.here
  | append_singleton steps step ih =>
    rw [build_append_singleton]
    exact ih.apply step

theorem Records.nodup_keys (h : Records steps env) : (env.map (·.1)).Nodup := by
  rw [List.Nodup, List.pairwise_map]
  refine h.ordered.imp ?_
  rintro e f ⟨i, j, hij, hi, hj⟩ hkey
  rw [← hkey] at hj
  exact hij.ne (hi.unique hj).1

theorem Records.envValue?_eq_some (h : Records steps c.env) :
    c.envValue? key = some value ↔ ∃ i, SetLast steps i key value := by
  rw [← h.mem, envValue?, Option.map_eq_some_iff]
  constructor
  · rintro ⟨e, he, rfl⟩
    obtain rfl : e.1 = key := by simpa using List.find?_some he
    exact List.mem_of_find?_eq_some he
  · intro hmem
    have hsome : (c.env.find? (·.1 = key)).isSome := List.find?_isSome.2 ⟨_, hmem, by simp⟩
    obtain ⟨e, he⟩ := Option.isSome_iff_exists.1 hsome
    obtain rfl : e.1 = key := by simpa using List.find?_some he
    obtain ⟨i, hi⟩ := (h.mem _ _).1 hmem
    obtain ⟨j, hj⟩ := (h.mem e.1 e.2).1 (List.mem_of_find?_eq_some he)
    exact ⟨e, he, (hj.unique hi).2⟩

theorem Records.envValue?_eq_none (h : Records steps c.env) :
    c.envValue? key = none ↔ ∀ value, .withEnv key value ∉ steps := by
  rw [Option.eq_none_iff_forall_ne_some]
  simp only [ne_eq, h.envValue?_eq_some]
  constructor
  · intro hnone value hmem
    obtain ⟨i, last, hlast⟩ := exists_setLast hmem
    exact hnone last ⟨i, hlast⟩
  · rintro hnone value ⟨i, hi⟩
    exact hnone value (List.mem_of_getElem? hi.here)

/-- **The last setting of a variable counts.** However a command is built up, no variable is set twice, a variable has
the value that it was set to last, and the variables are in the order of the steps that set them last. The arguments
are those given at first and then those of the steps, and the directory is the last one given. -/
theorem build_records_last_settings (hstart : start.Fresh) (steps : List Step) :
    ((start.build steps).env.map (·.1)).Nodup ∧
      (∀ key value, (start.build steps).envValue? key = some value ↔ ∃ i, SetLast steps i key value) ∧
      (∀ key, (start.build steps).envValue? key = none ↔ ∀ value, .withEnv key value ∉ steps) ∧
      (start.build steps).env.Pairwise (fun e f => ∃ i j, i < j ∧ SetLast steps i e.1 e.2 ∧ SetLast steps j f.1 f.2) ∧
      (start.build steps).args = start.args ++ steps.filterMap Step.arg? ∧
      (start.build steps).cwd = (steps.filterMap Step.dir?).getLast? ∧
      (start.build steps).program = start.program := by
  have h := hstart.follows_build steps
  exact ⟨h.env.nodup_keys, fun _ _ => h.env.envValue?_eq_some, fun _ => h.env.envValue?_eq_none, h.env.ordered, h.args,
    h.cwd, h.program⟩

/-- two variables, the first of them set again after the second, and two directories -/
def revisedSteps : List Step :=
  [.withEnv "JAVA_HOME" "/a", .withEnv "MAVEN_OPTS" "", .arg "compile", .inDir (.ofString "r"),
    .withEnv "JAVA_HOME" "/b", .inDir (.ofString "r/s"), .arg "-o"]

theorem revised_steps_leave_last_settings :
    (ofLine " mvn  -q").Fresh ∧
      ((ofLine " mvn  -q").build revisedSteps).env = [("MAVEN_OPTS", ""), ("JAVA_HOME", "/b")] ∧
      (∃ i, SetLast revisedSteps i "JAVA_HOME" "/b") ∧
      ((ofLine " mvn  -q").build revisedSteps).envValue? "PATH" = none ∧
      ((ofLine " mvn  -q").build revisedSteps).args = ["-q", "compile", "-o"] ∧
      ((ofLine " mvn  -q").build revisedSteps).cwd = some (.ofString "r/s") := by
  have hfresh : (ofLine " mvn  -q").Fresh := .ofLine _
  obtain ⟨-, hvalue, hnone, -, hargs, hcwd, -⟩ := build_records_last_settings hfresh revisedSteps
  refine ⟨hfresh, by decide +kernel, (hvalue _ _).1 (by decide +kernel), (hnone _).2 (by simp [revisedSteps]), ?_, ?_⟩
  · rw [hargs]
    decide +kernel
  · rw [hcwd]
    decide +kernel

/-! ## Lines -/

theorem ofLine_of_words {text program : String} {args : List String} (h : words text = program :: args) :
    ofLine text = { program, args } := by
  rw [ofLine, h]

theorem line_ofLine (text : String) : (ofLine text).line = " ".intercalate (words text) := by
  cases h : words text with
  | nil =>
    rw [ofLine, h]
    rfl
  | cons program args => rw [ofLine_of_words h, line]

/-- the line of a command that was read has the words that were read -/
theorem words_line_ofLine (text : String) : words (ofLine text).line = words text := by
  rw [line_ofLine, words_intercalate fun w hw => isWord_of_mem_words hw]

/-- **Lines and commands are inverse up to blanks.** The command read from a text is shown as the words of the text
with one space between them, and this line is read as the same command; and a command whose program and arguments are
words is read back from its line. -/
theorem lines_read_back :
    (∀ text shown : String, (ofLine text).line = shown ↔
      ∃ ws : List String, HasWords text.toList (ws.map String.toList) ∧ " ".intercalate ws = shown) ∧
    (∀ text : String, ofLine (ofLine text).line = ofLine text) ∧
    ∀ c : Command, (∀ w ∈ c.program :: c.args, IsWord w.toList) →
      ofLine c.line = { program := c.program, args := c.args } := by
  refine ⟨fun text shown => ?_, fun text => ?_, fun c h => ofLine_of_words (words_intercalate h)⟩
  · simp only [← words_eq_iff, exists_eq_left', line_ofLine]
  · rw [ofLine, words_line_ofLine, ← ofLine]

/-- a line with wide and control blanks in it, and a command that has more to it than its line -/
theorem scattered_line_reads_back :
    (ofLine "\u3000bash  gradlew\tclasses\u0085").line = "bash gradlew classes" ∧
      ofLine "bash gradlew classes" = ofLine "\u3000bash  gradlew\tclasses\u0085" ∧
      (∀ w ∈ ["bash", "gradlew"], IsWord w.toList) ∧
      ofLine (Command.line ⟨"bash", ["gradlew"], some (.ofString "r"), [("JAVA_HOME", "/a")]⟩) =
        { program := "bash", args := ["gradlew"] } := by
  have hline : (ofLine "\u3000bash  gradlew\tclasses\u0085").line = "bash gradlew classes" := by decide +kernel
  have hwords : ∀ w ∈ ["bash", "gradlew"], IsWord w.toList :=
    List.forall_mem_cons.2 ⟨⟨by decide, by simp [isBlank]⟩,
      List.forall_mem_singleton.2 ⟨by decide, by simp [isBlank]⟩⟩
  refine ⟨hline, ?_, hwords, ?_⟩
  · rw [← hline]
    exact lines_read_back.2.1 _
  · exact lines_read_back.2.2 ⟨"bash", ["gradlew"], some (.ofString "r"), [("JAVA_HOME", "/a")]⟩ hwords

end Benchwork.Build.Command
