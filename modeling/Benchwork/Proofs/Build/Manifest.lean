/-
Manifests, line by line.

A line speaks unless it is blank or a comment. A line that speaks tells an entry, if it is a URL and a revision with
blanks between them, and offends otherwise. So each line does one of three things (`line_cases`), and what is read of a
manifest follows line by line: it is accepted just if no line offends, and has then the entries of the lines that speak
(`parseLines_eq_ok`); otherwise the first line that offends is reported with its number (`parseLines_eq_error`).

Where one manifest ends with its last line, another one can follow: both are read as they are read alone, but for the
numbers of the lines (`parseLines_append`, `parseLines_further`). Entries that are written one a line are read back.
-/
import Benchwork.Build.Manifest
import Benchwork.Proofs.Text.Lines
import Benchwork.Proofs.Text.Words

namespace Benchwork.Build

open Benchwork.Text

/-- the same failure, `k` lines further down -/
def BuildError.further (k : Nat) : BuildError → BuildError
  | .manifestLine number content => .manifestLine (number + k) content
  | e => e

def ManifestEntry.line (e : ManifestEntry) : String := e.url ++ " " ++ e.revision

/-- the entry can be told by a line that is not taken for a comment -/
structure ManifestEntry.Writable (e : ManifestEntry) : Prop where
  url : IsWord e.url.toList
  revision : IsWord e.revision.toList
  noComment : e.url.toList.head? ≠ some '#'

namespace Manifest

/-! ## What a line says -/

/-- a line that is neither a comment nor blank -/
def Speaks (line : List Char) : Prop := line.head? ≠ some '#' ∧ ∃ c ∈ line, isBlank c = false

instance (line : List Char) : Decidable (Speaks line) := inferInstanceAs (Decidable (_ ∧ _))

/-- the line has exactly two words, the URL and the revision of the entry -/
def Tells (line : List Char) (e : ManifestEntry) : Prop :=
  IsWord e.url.toList ∧ IsWord e.revision.toList ∧ ∃ before between after,
    line = before ++ e.url.toList ++ between ++ e.revision.toList ++ after ∧
      between ≠ [] ∧ ∀ c ∈ before ++ between ++ after, isBlank c = true

/-- a line that should tell an entry and does not -/
def Offends (line : List Char) : Prop := Speaks line ∧ ∀ e, ¬ Tells line e

theorem isSilent_eq_true {line : List Char} : isSilent line = true ↔ ¬ Speaks line := by
  simp [isSilent, Speaks, or_iff_not_imp_left]

theorem entry?_eq_some {line : List Char} {e : ManifestEntry} : entry? line = some e ↔ Tells line e := by
  rw [Tells, ← wordsOf_eq_pair, entry?]
  split
  · rename_i url revision hwords
    rw [hwords]
    cases e
    simp [← String.toList_inj]
  · rename_i hwords
    simp only [reduceCtorEq, false_iff]
    exact hwords _ _

theorem Tells.unique {line : List Char} {e e' : ManifestEntry} (h : Tells line e) (h' : Tells line e') : e = e' :=
  Option.some.inj ((entry?_eq_some.2 h).symm.trans (entry?_eq_some.2 h'))

theorem line_cases (line : List Char) : ¬ Speaks line ∨ (Speaks line ∧ ∃ e, Tells line e) ∨ Offends line := by
  by_cases hspeaks : Speaks line
  · by_cases htells : ∃ e, Tells line e
    · exact .inr (.inl ⟨hspeaks, htells⟩)
    · exact .inr (.inr ⟨hspeaks, not_exists.1 htells⟩)
  · exact .inl hspeaks

/-! ## Reading lines -/

section Step

variable {line : List Char} (number : Nat) (rest : List (List Char))

theorem parseLines_silent (h : ¬ Speaks line) : parseLines number (line :: rest) = parseLines (number + 1) rest := by
  rw [parseLines, if_pos (isSilent_eq_true.2 h)]

theorem parseLines_entry {e : ManifestEntry} (h : Speaks line) (he : Tells line e) :
    parseLines number (line :: rest) = (parseLines (number + 1) rest).map (e :: ·) := by
  rw [parseLines, if_neg (by rwa [isSilent_eq_true, not_not]), entry?_eq_some.2 he]

theorem parseLines_offence (h : Offends line) :
    parseLines number (line :: rest) = .error (.manifestLine number (String.ofList line)) := by
  have hentry : entry? line = none := Option.eq_none_iff_forall_ne_some.2 fun e he => h.2 e (entry?_eq_some.1 he)
  rw [parseLines, if_neg (by rw [isSilent_eq_true, not_not]; exact h.1), hentry]

end Step

/-- a manifest is accepted with the entries that its lines tell -/
theorem parseLines_eq_ok {number : Nat} {lines : List (List Char)} {es : List ManifestEntry} :
    parseLines number lines = .ok es ↔ List.Forall₂ Tells (lines.filter (Speaks ·)) es := by
  induction lines generalizing number es with
  | nil => simp [parseLines, eq_comm]
  | cons line rest ih =>
    rcases line_cases line with hsilent | ⟨hspeaks, e, he⟩ | hoffends
    · rw [parseLines_silent number rest hsilent, List.filter_cons_of_neg (by simpa using hsilent), ih]
    · rw [parseLines_entry number rest hspeaks he, List.filter_cons_of_pos (by simpa using hspeaks),
        List.forall₂_cons_left_iff]
      constructor
      · intro h
        cases hrest : parseLines (number + 1) rest with
        | error err => rw [hrest] at h; cases h
        | ok more =>
          rw [hrest] at h
          exact ⟨e, more, he, ih.1 hrest, (Except.ok.inj h).symm⟩
      · rintro ⟨e', more, he', hmore, rfl⟩
        rw [ih.2 hmore, he.unique he']
        rfl
    · rw [parseLines_offence number rest hoffends, List.filter_cons_of_pos (by simpa using hoffends.1),
        List.forall₂_cons_left_iff]
      constructor
      · intro h
        cases h
      · rintro ⟨e, _, he, -⟩
        exact absurd he (hoffends.2 e)

theorem exists_parseLines_eq_ok {lines : List (List Char)} (h : ∀ line ∈ lines, ¬ Offends line) (number : Nat) :
    ∃ es, parseLines number lines = .ok es := by
  induction lines generalizing number with
  | nil => exact ⟨[], rfl⟩
  | cons line rest ih =>
    obtain ⟨hline, hrest⟩ := List.forall_mem_cons.1 h
    obtain ⟨es, hes⟩ := ih hrest (number + 1)
    rcases line_cases line with hsilent | ⟨hspeaks, e, he⟩ | hoffends
    · exact ⟨es, by rw [parseLines_silent number rest hsilent, hes]⟩
    · exact ⟨e :: es, by rw [parseLines_entry number rest hspeaks he, hes]; rfl⟩
    · exact absurd hoffends hline

/-- the first part decides if it fails; otherwise the second part is read with the numbers that its lines have -/
theorem parseLines_append (number : Nat) (a b : List (List Char)) :
    parseLines number (a ++ b) = parseLines number a >>= fun es => (parseLines (number + a.length) b).map (es ++ ·) := by
  induction a generalizing number with
  | nil =>
    change parseLines number b = (parseLines number b).map ([] ++ ·)
    cases parseLines number b with
    | error err => rfl
    | ok es => rfl
  | cons line rest ih =>
    have hnumber : number + (line :: rest).length = number + 1 + rest.length := by simp; omega
    rw [List.cons_append, hnumber]
    rcases line_cases line with hsilent | ⟨hspeaks, e, he⟩ | hoffends
    · rw [parseLines_silent _ _ hsilent, parseLines_silent _ _ hsilent, ih]
    · rw [parseLines_entry _ _ hspeaks he, parseLines_entry _ _ hspeaks he, ih]
      cases parseLines (number + 1) rest with
      | error err => rfl
      | ok es =>
        cases parseLines (number + 1 + rest.length) b with
        | error err => rfl
        | ok more => rfl
    · rw [parseLines_offence _ _ hoffends, parseLines_offence _ _ hoffends]
      rfl

theorem exists_first_offence {lines : List (List Char)} (h : ∃ line ∈ lines, Offends line) :
    ∃ before line after, lines = before ++ line :: after ∧ (∀ l ∈ before, ¬ Offends l) ∧ Offends line := by
  classical
  have hfind : (lines.find? fun l => decide (Offends l)).isSome := by simpa using h
  obtain ⟨line, hline⟩ := Option.isSome_iff_exists.1 hfind
  obtain ⟨hoffends, before, after, rfl, hbefore⟩ := List.find?_eq_some_iff_append.1 hline
  exact ⟨before, line, after, rfl, fun l hl => by simpa using hbefore l hl, by simpa using hoffends⟩

/-- the first line that offends is reported with its number and content -/
theorem parseLines_first_offence (number : Nat) {before : List (List Char)} (hbefore : ∀ l ∈ before, ¬ Offends l)
    {line : List Char} (hline : Offends line) (after : List (List Char)) :
    parseLines number (before ++ line :: after) =
      .error (.manifestLine (number + before.length) (String.ofList line)) := by
  obtain ⟨es, hes⟩ := exists_parseLines_eq_ok hbefore number
  rw [parseLines_append, hes, parseLines_offence _ _ hline]
  rfl

theorem parseLines_eq_error {number : Nat} {lines : List (List Char)} {err : BuildError} :
    parseLines number lines = .error err ↔ ∃ before line after, lines = before ++ line :: after ∧
      (∀ l ∈ before, ¬ Offends l) ∧ Offends line ∧ err = .manifestLine (number + before.length) (String.ofList line) := by
  constructor
  · intro h
    have hsome : ∃ line ∈ lines, Offends line := by
      by_contra hnone
      obtain ⟨es, hes⟩ := exists_parseLines_eq_ok (fun line hline hoffends => hnone ⟨line, hline, hoffends⟩) number
      cases hes.symm.trans h
    obtain ⟨before, line, after, rfl, hbefore, hline⟩ := exists_first_offence hsome
    rw [parseLines_first_offence number hbefore hline] at h
    exact ⟨before, line, after, rfl, hbefore, hline, (Except.error.inj h).symm⟩
  · rintro ⟨before, line, after, rfl, hbefore, hline, rfl⟩
    exact parseLines_first_offence number hbefore hline after

theorem parseLines_further (number k : Nat) (lines : List (List Char)) :
    parseLines (number + k) lines = (parseLines number lines).mapError (BuildError.further k) := by
  induction lines generalizing number with
  | nil => rfl
  | cons line rest ih =>
    have hnumber : number + k + 1 = number + 1 + k := by omega
    rcases line_cases line with hsilent | ⟨hspeaks, e, he⟩ | hoffends
    · rw [parseLines_silent _ _ hsilent, parseLines_silent _ _ hsilent, hnumber, ih]
    · rw [parseLines_entry _ _ hspeaks he, parseLines_entry _ _ hspeaks he, hnumber, ih]
      cases parseLines (number + 1) rest with
      | error err => rfl
      | ok es => rfl
    · rw [parseLines_offence _ _ hoffends, parseLines_offence _ _ hoffends]
      rfl

/-- what is read of two parts of a manifest, of which the first has `k` lines -/
def join (k : Nat) : Except BuildError (List ManifestEntry) → Except BuildError (List ManifestEntry) →
    Except BuildError (List ManifestEntry)
  | .error e, _ => .error e
  | .ok _, .error e => .error (e.further k)
  | .ok es, .ok more => .ok (es ++ more)

theorem parse_append {a : String} (ha : Ended a.toList) (b : String) :
    parse (a ++ b) = join (linesOf a.toList).length (parse a) (parse b) := by
  rw [parse, String.toList_append, linesOf_append ha, parseLines_append, parseLines_further]
  change parse a >>= (fun es => ((parse b).mapError _).map (es ++ ·)) = _
  cases parse a with
  | error err => rfl
  | ok es =>
    cases parse b with
    | error err => rfl
    | ok more => rfl

end Manifest

/-! ## Reading back -/

open Manifest

theorem ManifestEntry.Writable.tells {e : ManifestEntry} (h : e.Writable) : Tells e.line.toList e :=
  ⟨h.url, h.revision, [], [' '], [], by simp [ManifestEntry.line], by simp, by simp [isBlank]⟩

theorem ManifestEntry.Writable.speaks {e : ManifestEntry} (h : e.Writable) : Speaks e.line.toList := by
  obtain ⟨c, cs, hurl⟩ := List.exists_cons_of_ne_nil h.url.ne_nil
  have hline : e.line.toList = c :: (cs ++ ' ' :: e.revision.toList) := by simp [ManifestEntry.line, hurl]
  have hsharp := h.noComment
  rw [hurl] at hsharp
  rw [hline]
  exact ⟨hsharp, c, List.mem_cons_self, h.url.solid c (hurl ▸ List.mem_cons_self)⟩

theorem ManifestEntry.Writable.isLine {e : ManifestEntry} (h : e.Writable) : IsLine e.line.toList := by
  have hline : e.line.toList = e.url.toList ++ ' ' :: e.revision.toList := by simp [ManifestEntry.line]
  have hend : isBlank '\n' = true := by decide
  have hreturn : isBlank '\r' = true := by decide
  refine ⟨by simp [hline], fun hmem => ?_, fun hlast => ?_⟩
  · rw [hline, List.mem_append, List.mem_cons] at hmem
    rcases hmem with hurl | hblank | hrevision
    · exact absurd (h.url.solid _ hurl) (by simp [hend])
    · cases hblank
    · exact absurd (h.revision.solid _ hrevision) (by simp [hend])
  · rw [hline, List.append_cons, List.getLast?_append_of_ne_nil _ h.revision.ne_nil] at hlast
    exact absurd (h.revision.solid _ (List.mem_of_getLast? hlast)) (by simp [hreturn])

namespace Manifest

theorem parseLines_lines {entries : List ManifestEntry} (h : ∀ e ∈ entries, e.Writable) (number : Nat) :
    parseLines number (entries.map (·.line.toList)) = .ok entries := by
  rw [parseLines_eq_ok, List.filter_eq_self.2, List.forall₂_map_left_iff, List.forall₂_same]
  · exact fun e he => (h e he).tells
  · intro line hline
    obtain ⟨e, he, rfl⟩ := List.mem_map.1 hline
    simpa using (h e he).speaks

/-! ## Whole manifests -/

/-- what is read of a manifest with these lines -/
structure ReadsAs (lines : List (List Char)) (result : Except BuildError (List ManifestEntry)) : Prop where
  accepted : (∃ es, result = .ok es) ↔ ∀ line ∈ lines, Speaks line → ∃ e, Tells line e
  entries : ∀ es, result = .ok es ↔ List.Forall₂ Tells (lines.filter (Speaks ·)) es
  refused : ∀ err, result = .error err ↔ ∃ before line after, lines = before ++ line :: after ∧
    (∀ l ∈ before, ¬ Offends l) ∧ Offends line ∧ err = .manifestLine (before.length + 1) (String.ofList line)

theorem readsAs_parseLines (lines : List (List Char)) : ReadsAs lines (parseLines 1 lines) where
  accepted := by
    have hnone : (∀ line ∈ lines, Speaks line → ∃ e, Tells line e) ↔ ∀ line ∈ lines, ¬ Offends line := by
      simp [Offends]
    rw [hnone]
    refine ⟨?_, fun h => exists_parseLines_eq_ok h 1⟩
    rintro ⟨es, hes⟩ line hline hoffends
    obtain ⟨before, line, after, rfl, hbefore, hline⟩ := exists_first_offence ⟨line, hline, hoffends⟩
    cases hes.symm.trans (parseLines_first_offence 1 hbefore hline after)
  entries es := parseLines_eq_ok
  refused err := by
    rw [parseLines_eq_error]
    simp only [Nat.add_comm 1]

/-- **A manifest is told by its lines.** It is accepted just if each line that speaks tells an entry, and otherwise the
first line that does not is reported. It is read in parts as it is read as a whole, and entries written one a line are
read back. -/
theorem parse_line_by_line :
    (∀ text : String, CutInto text.toList (linesOf text.toList) ∧ ReadsAs (linesOf text.toList) (parse text)) ∧
    (∀ a b : String, Ended a.toList → parse (a ++ b) = join (linesOf a.toList).length (parse a) (parse b)) ∧
    ∀ entries : List ManifestEntry, (∀ e ∈ entries, e.Writable) →
      parse (String.join (entries.map fun e => e.line ++ "\n")) = .ok entries ∧
      parse ("\n".intercalate (entries.map (·.line))) = .ok entries := by
  refine ⟨fun text => ⟨linesOf_eq_iff.1 rfl, readsAs_parseLines _⟩, fun a b ha => parse_append ha b, fun entries h => ?_⟩
  have hlines : ∀ line ∈ entries.map (·.line.toList), IsLine line := by
    intro line hline
    obtain ⟨e, he, rfl⟩ := List.mem_map.1 hline
    exact (h e he).isLine
  constructor
  · have htext : (String.join (entries.map fun e => e.line ++ "\n")).toList =
        (entries.map (·.line.toList)).flatMap (· ++ ['\n']) := by
      simp [String.toList_join, List.flatMap_map]
    rw [parse, htext, linesOf_ended hlines, parseLines_lines h]
  · have htext : ("\n".intercalate (entries.map (·.line))).toList = ['\n'].intercalate (entries.map (·.line.toList)) := by
      simp [String.toList_intercalate, Function.comp_def]
    rw [parse, htext, linesOf_intercalate hlines, parseLines_lines h]

/-- a comment and an entry with other line ends before a part whose second line is refused: it is the fourth line -/
theorem parse_line_by_line_parts :
    Ended "# corpus\r\nu\tv1\r\n".toList ∧
      parse ("# corpus\r\nu\tv1\r\n" ++ " \nlone") = .error (.manifestLine 4 "lone") ∧
      (⟨"u#", "#v"⟩ : ManifestEntry).Writable ∧ parse "u# #v\n" = .ok [⟨"u#", "#v"⟩] := by
  have hended : Ended "# corpus\r\nu\tv1\r\n".toList := .inr (by decide +kernel)
  have hwritable : (⟨"u#", "#v"⟩ : ManifestEntry).Writable :=
    ⟨⟨by decide, by simp [isBlank]⟩, ⟨by decide, by simp [isBlank]⟩, by decide⟩
  refine ⟨hended, ?_, hwritable, ?_⟩
  · rw [parse_line_by_line.2.1 _ " \nlone" hended]
    decide +kernel
  · exact (parse_line_by_line.2.2 [⟨"u#", "#v"⟩] (by simpa using hwritable)).1

end Manifest

end Benchwork.Build
