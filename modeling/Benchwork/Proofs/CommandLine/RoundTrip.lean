/-
Command lines that read back.

A command to show results can be written out as arguments: every value in the argument of its option, and the files after
`--`. These arguments are read as the command they were written from, with every list in its order, whatever the values
look like and in whatever order the switches stand; and the configuration has what the command asks for
(`plot_words_read_back`).
-/
import Benchwork.CommandLine.Top
import Benchwork.Proofs.CommandLine.FigureSizes
import Benchwork.Proofs.CommandLine.Words
import Benchwork.Proofs.Files.Paths
import Benchwork.Proofs.Text.Utf8

namespace Benchwork.CommandLine

open Benchwork.Text

/-! ## Pages of files -/

namespace PlotConfig

/-- what the page of a list of files is named after -/
def stem (files : List Path) : String := ((files.head?.bind Path.fileStem?).map Utf8.lossy).getD "out"

theorem slash_not_mem_stem (files : List Path) : '/' ∉ (stem files).toList := by
  unfold stem
  cases hstem : files.head?.bind Path.fileStem? with
  | none => decide
  | some n =>
    obtain ⟨p, -, hp⟩ := Option.bind_eq_some_iff.1 hstem
    intro h
    obtain ⟨b, hb, hslash⟩ := Utf8.exists_mem_of_mem_lossy (by decide) h
    obtain rfl : b = Path.slash := UInt8.toNat_inj.1 hslash
    exact Path.slash_not_mem_of_fileStem hp hb

theorem isOrdinary_page {s : String} (h : '/' ∉ s.toList) : Path.IsOrdinary (Utf8.encode (s ++ ".svg")) := by
  have hparts : Utf8.encode (s ++ ".svg") = Utf8.encode s ++ Utf8.encode ".svg" := by
    simp [Utf8.encode]
  have hlong : 4 ≤ (Utf8.encode (s ++ ".svg")).length := by
    rw [hparts, List.length_append]
    exact Nat.le_add_left 4 _
  have hne : ∀ n : Name, n.length < 4 → Utf8.encode (s ++ ".svg") ≠ n := by
    rintro n hn rfl
    omega
  refine ⟨hne _ (by decide), fun hslash => ?_, hne _ (by decide), hne _ (by decide)⟩
  obtain ⟨c, hc, hcode⟩ := Utf8.exists_mem_of_mem_encode (by decide) hslash
  obtain rfl : c = '/' := Char.toNat_inj.1 hcode
  rw [String.toList_append, List.mem_append] at hc
  exact hc.elim h (by decide)

/-- the page of a list of files is directly in the directory for pages -/
theorem exists_pagePath (files : List Path) :
    ∃ name, Path.IsOrdinary name ∧ pagePath files = ⟨Utf8.encode "pdfs/" ++ name⟩ := by
  have hordinary := isOrdinary_page (slash_not_mem_stem files)
  refine ⟨Utf8.encode (stem files ++ ".svg"), hordinary, ?_⟩
  change pageDirectory.join ⟨Utf8.encode (stem files ++ ".svg")⟩ = _
  rw [Path.join, if_neg (by simp [hordinary.isAbsolute]), if_neg (by decide)]
  rfl

end PlotConfig

/-! ## Arguments of a command -/

/-- the options without a value that say what to do -/
inductive Switch where
  | table
  | page
  | keepZero
  deriving DecidableEq, Repr

namespace Switch

def name : Switch → String
  | table => "table"
  | page => "pdf"
  | keepZero => "keep-zero"

def key : Switch → PlotOption
  | table => .table
  | page => .page
  | keepZero => .keepZero

def isOn (c : PlotCommand) : Switch → Bool
  | table => c.table
  | page => c.page
  | keepZero => c.keepZero

def turnOn (c : PlotCommand) : Switch → PlotCommand
  | table => { c with table := true }
  | page => { c with page := true }
  | keepZero => { c with keepZero := true }

theorem key_injective : Function.Injective key := by
  intro s t h
  cases s <;> cases t <;> first | rfl | cases h

theorem foldl_turnOn (switches : List Switch) (c : PlotCommand) :
    switches.foldl turnOn c =
      { c with
        table := c.table || decide (table ∈ switches)
        page := c.page || decide (page ∈ switches)
        keepZero := c.keepZero || decide (keepZero ∈ switches) } := by
  induction switches generalizing c with
  | nil => simp
  | cons s switches ih =>
    rw [List.foldl_cons, ih]
    cases s <;> simp [turnOn]

end Switch

namespace PlotCommand

/-- the arguments that ask for a command: its options, with the switches that are on in any order -/
def optionWords (c : PlotCommand) (switches : List Switch) : List String :=
  c.exclude.map (withValue "exclude") ++ c.names.map (withValue "include") ++ c.groups.map (withValue "includeg") ++
    c.limit.toList.map (fun n => withValue "ylim" (toString n)) ++
    [withValue "figsize" (toString c.figureSize.width ++ "," ++ toString c.figureSize.height)] ++
    switches.map (fun s => alone s.name)

def words (c : PlotCommand) (switches : List Switch) : List String := c.optionWords switches ++ "--" :: c.files

/-- files are named, and numbers have at most 32 bits -/
structure Writable (c : PlotCommand) : Prop where
  files : c.files ≠ []
  named : "" ∉ c.files
  limit : ∀ n ∈ c.limit, n ≤ Number.top32
  width : 0 < c.figureSize.width ∧ c.figureSize.width ≤ Number.top32
  height : 0 < c.figureSize.height ∧ c.figureSize.height ≤ Number.top32

/-! ## Values -/

theorem limitOf_toString {n : Nat} (h : n ≤ Number.top32) : limitOf (toString n) = some n := by
  have hdigits : (toString n).toList = Nat.toDigits 10 n := by simp
  rw [limitOf, hdigits, Number.signedWhole?_toDigits]
  change (if (0 : Int) ≤ n ∧ (n : Int) ≤ (Number.top32 : Nat) then _ else _) = _
  rw [if_pos ⟨by omega, by omega⟩]
  rfl

/-! ## Options -/

theorem known_exclude : grammar.Known "exclude"
    { key := .exclude, short := some 'x', long := some "exclude", arity := .many, repeats := true } :=
  ⟨rfl, by decide, by decide⟩

theorem known_names : grammar.Known "include"
    { key := .names, short := some 'i', long := some "include", arity := .many, repeats := true } :=
  ⟨rfl, by decide, by decide⟩

theorem known_groups : grammar.Known "includeg"
    { key := .groups, short := some 'g', long := some "includeg", arity := .many, repeats := true } :=
  ⟨rfl, by decide, by decide⟩

theorem known_limit : grammar.Known "ylim" { key := .limit, short := some 'y', long := some "ylim", arity := .one } :=
  ⟨rfl, by decide, by decide⟩

theorem known_figureSize : grammar.Known "figsize" { key := .figureSize, long := some "figsize", arity := .one } :=
  ⟨rfl, by decide, by decide⟩

theorem known_switch (s : Switch) : grammar.Known s.name { key := s.key, long := some s.name } := by
  cases s <;> exact ⟨rfl, by decide, by decide⟩

theorem take_switch (s : Switch) (d : Draft) :
    grammar.take s.key [] d = .ok { d with command := Switch.turnOn d.command s } := by
  cases s <;> rfl

theorem reads_limit {seen : List PlotOption} (hseen : .limit ∉ seen) (d : Draft) {limit : Option Nat}
    (h : ∀ n ∈ limit, n ≤ Number.top32) (hnone : d.command.limit = none) :
    grammar.Reads d seen (limit.toList.map fun n => withValue "ylim" (toString n))
      { d with command := { d.command with limit } } (limit.toList.map fun _ => .limit) := by
  cases limit with
  | none =>
    have hsame : ({ d with command := { d.command with limit := none } } : Draft) = d := by rw [← hnone]
    rw [hsame]
    exact .nil d seen
  | some n =>
    have hvalue : limitOf ("".intercalate [toString n]) = some n := limitOf_toString (h n rfl)
    refine .withValue known_limit (by decide) (.inr hseen) ?_
    simp only [grammar, take, hvalue]

theorem reads_figureSize {seen : List PlotOption} (hseen : .figureSize ∉ seen) (d : Draft) {size : Page.FigureSize}
    (hwidth : 0 < size.width ∧ size.width ≤ Number.top32) (hheight : 0 < size.height ∧ size.height ≤ Number.top32) :
    grammar.Reads d seen [withValue "figsize" (toString size.width ++ "," ++ toString size.height)]
      { d with command := { d.command with figureSize := size } } [.figureSize] := by
  have hvalue : figureSizeOf ("".intercalate [toString size.width ++ "," ++ toString size.height]).toList = some size :=
    figureSizeOf_digits hwidth hheight
  refine .withValue known_figureSize (by decide) (.inr hseen) ?_
  simp only [grammar, take, hvalue]

theorem reads_switches {seen : List PlotOption} {switches : List Switch} (hnodup : switches.Nodup)
    (hseen : ∀ s ∈ switches, s.key ∉ seen) (d : Draft) :
    grammar.Reads d seen (switches.map fun s => alone s.name)
      { d with command := switches.foldl Switch.turnOn d.command } (switches.map Switch.key).reverse := by
  induction switches generalizing d seen with
  | nil => exact .nil d seen
  | cons s switches ih =>
    obtain ⟨hs, hnodup⟩ := List.nodup_cons.1 hnodup
    have hfirst := Grammar.Reads.alone (known_switch s) rfl (.inr (hseen s List.mem_cons_self)) (take_switch s d)
    have hrest : ∀ t ∈ switches, t.key ∉ s.key :: seen := by
      intro t ht
      refine List.not_mem_cons_of_ne_of_not_mem (fun hkey => hs ?_) (hseen t (List.mem_cons_of_mem s ht))
      exact Switch.key_injective hkey ▸ ht
    rw [List.map_cons, List.map_cons, List.reverse_cons]
    exact hfirst.append (ih hnodup hrest _)

theorem reads_optionWords {c : PlotCommand} (h : c.Writable) {switches : List Switch} (hnodup : switches.Nodup)
    (hon : ∀ s, s ∈ switches ↔ s.isOn c = true) :
    ∃ keys, grammar.Reads {} [] (c.optionWords switches)
      { command := { c with files := ({} : PlotCommand).files } } keys := by
  -- after each kind of option the command is there as far as it was written
  have hexclude : grammar.Reads {} [] (c.exclude.map (withValue "exclude")) { command := { exclude := c.exclude } } _ :=
    .each known_exclude (by decide) rfl (fun vs => { command := { exclude := vs } }) (fun _ _ => rfl) [] c.exclude
  have hnames := hexclude.append (.each known_names (by decide) rfl
    (fun vs => { command := { exclude := c.exclude, names := vs } }) (fun _ _ => rfl) [] c.names)
  have hgroups := hnames.append (.each known_groups (by decide) rfl
    (fun vs => { command := { exclude := c.exclude, names := c.names, groups := vs } }) (fun _ _ => rfl) [] c.groups)
  have hlimit := hgroups.append (reads_limit (by simp) _ h.limit rfl)
  have hsize := hlimit.append (reads_figureSize (by simp) _ h.width h.height)
  have hswitches := hsize.append (reads_switches hnodup (fun s _ => by cases s <;> simp [Switch.key]) _)
  have hcommand : switches.foldl Switch.turnOn
      { exclude := c.exclude, names := c.names, groups := c.groups, limit := c.limit, figureSize := c.figureSize } =
      { c with files := ({} : PlotCommand).files } := by
    simp [Switch.foldl_turnOn, hon, Switch.isOn]
  rw [← hcommand]
  exact ⟨_, hswitches⟩

/-- the arguments of a command are read as the command -/
theorem read_words {c : PlotCommand} (h : c.Writable) {switches : List Switch} (hnodup : switches.Nodup)
    (hon : ∀ s, s ∈ switches ↔ s.isOn c = true) : PlotCommand.read (c.words switches) = .ok c := by
  obtain ⟨keys, hkeys⟩ := reads_optionWords h hnodup hon
  have hfiles : grammar.take .files c.files { command := { c with files := ({} : PlotCommand).files } } =
      .ok { command := { c with files := ({} : PlotCommand).files }, files := c.files } := by
    change (if c.files.contains "" then _ else _) = _
    rw [if_neg (by simpa using h.named)]
    rfl
  rw [PlotCommand.read, words, Grammar.read_literal rfl hkeys h.files (.inl rfl) hfiles]
  change Except.ok (if c.files.isEmpty then _ else _) = _
  rw [if_neg (by simpa using h.files)]

end PlotCommand

/-! ## Configuration -/

/-- the configuration has what the command asks for -/
structure PlotConfig.Follows (config : PlotConfig) (c : PlotCommand) : Prop where
  files : config.files = c.files.map Path.ofString
  filter : config.filter = { groups := c.groups, exclude := c.exclude, names := c.names }
  limit : ∀ y, config.limit = some y ↔ ∃ n, c.limit = some n ∧ 0 < n ∧ y = Float.ofNat n
  table : c.table = true → config.output = .table
  page : c.table = false → c.page = true →
    ∃ name, Path.IsOrdinary name ∧ config.output = .file ⟨Utf8.encode "pdfs/" ++ name⟩
  screen : c.table = false → c.page = false → config.output = .screen

theorem PlotConfig.follows_ofCommand (c : PlotCommand) : (ofCommand c).Follows c where
  files := rfl
  filter := rfl
  limit y := by
    change (c.limit.filter (0 < ·)).map Float.ofNat = some y ↔ _
    constructor
    · intro h
      obtain ⟨n, hn, hy⟩ := Option.map_eq_some_iff.1 h
      obtain ⟨hn, hpos⟩ := Option.filter_eq_some_iff.1 hn
      exact ⟨n, hn, of_decide_eq_true hpos, hy.symm⟩
    · rintro ⟨n, hn, hpos, rfl⟩
      simp [hn, hpos]
  table htable := if_pos htable
  page htable hpage := by
    obtain ⟨name, hname, hpath⟩ := exists_pagePath (c.files.map Path.ofString)
    refine ⟨name, hname, ?_⟩
    rw [← hpath]
    simp [ofCommand, htable, hpage]
  screen htable hpage := by simp [ofCommand, htable, hpage]

/-- **Commands to show results are read back.** One that is written out as arguments, with each value in the argument
of its option and the files after `--`, is read as this command, and its configuration has what it asks for. -/
theorem plot_words_read_back {c : PlotCommand} (h : c.Writable) {switches : List Switch} (hnodup : switches.Nodup)
    (hon : ∀ s, s ∈ switches ↔ s.isOn c = true) :
    Invocation.read ("plot" :: c.words switches) = .ok (.plot c) ∧ (PlotConfig.ofCommand c).Follows c := by
  refine ⟨?_, PlotConfig.follows_ofCommand c⟩
  rw [Invocation.read, PlotCommand.read_words h hnodup hon]
  rfl

/-- values and files that look like options -/
def deceptiveCommand : PlotCommand where
  files := ["--table", "-", "a/b.json"]
  exclude := ["", "-x", "a=b", "--"]
  names := ["--include=a"]
  limit := some 0
  figureSize := ⟨4294967295, 1⟩
  page := true
  keepZero := true

theorem deceptive_words_read_back :
    Invocation.read ["plot", "--exclude=", "--exclude=-x", "--exclude=a=b", "--exclude=--", "--include=--include=a",
        "--ylim=0", "--figsize=4294967295,1", "--keep-zero", "--pdf", "--", "--table", "-", "a/b.json"] =
      .ok (.plot deceptiveCommand) ∧
    (PlotConfig.ofCommand deceptiveCommand).Follows deceptiveCommand := by
  have hwritable : deceptiveCommand.Writable := ⟨by decide, by decide, by decide, by decide, by decide⟩
  have hon : ∀ s, s ∈ [Switch.keepZero, .page] ↔ s.isOn deceptiveCommand = true := by
    intro s
    cases s <;> decide
  have hwords : deceptiveCommand.words [.keepZero, .page] =
      ["--exclude=", "--exclude=-x", "--exclude=a=b", "--exclude=--", "--include=--include=a", "--ylim=0",
        "--figsize=4294967295,1", "--keep-zero", "--pdf", "--", "--table", "-", "a/b.json"] := by
    decide +kernel
  rw [← hwords]
  exact plot_words_read_back hwritable (by decide) hon

end Benchwork.CommandLine
