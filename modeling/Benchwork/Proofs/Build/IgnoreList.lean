/-
The ignore list of a repository.

Fetching a repository adds the names of the markers to its ignore list, one a line. They are added at the end of the
file, so they are lines of their own exactly if the file was empty or missing, or its last line had an end
(`byteLines_ignore`). A last line without an end is lost: it is read as one line with the first marker.
-/
import Benchwork.Proofs.Build.Founder

namespace Benchwork.Build.Repository

open Benchwork.Text Session

/-! ## Lines -/

def newline : UInt8 := 0x0A

/-- the lines of a file: what ends in a newline, and what stands behind the last newline if it is anything -/
def byteLines (bytes : List UInt8) : List (List UInt8) :=
  if (bytes.splitOn newline).getLast? = some [] then (bytes.splitOn newline).dropLast else bytes.splitOn newline

theorem byteLines_nil : byteLines [] = [] := by
  simp [byteLines]

/-- what has no newline is a line without an end -/
theorem byteLines_of_not_mem {bytes : List UInt8} (h : newline ∉ bytes) (hne : bytes ≠ []) :
    byteLines bytes = [bytes] := by
  simp [byteLines, List.splitOn_eq_singleton h, hne]

/-- a newline ends a line, whatever comes behind it -/
theorem byteLines_append_newline (a b : List UInt8) :
    byteLines (a ++ newline :: b) = a.splitOn newline ++ byteLines b := by
  have hne := List.splitOn_ne_nil newline b
  rw [byteLines, byteLines, List.splitOn_append_cons_self, List.getLast?_append_of_ne_nil _ hne,
    List.dropLast_append_of_ne_nil hne]
  split_ifs <;> rfl

/-- a file is lines with an end, and a rest without one -/
theorem exists_rest (bytes : List UInt8) : ∃ before rest lines, bytes = before ++ rest ∧ newline ∉ rest ∧
    (rest = [] ↔ bytes = [] ∨ bytes.getLast? = some newline) ∧
      ∀ more, byteLines (before ++ more) = lines ++ byteLines more := by
  have hrest := not_mem_lastPiece newline bytes
  have hsplit := eq_lastPiece_or newline bytes
  generalize lastPiece newline bytes = rest at hrest hsplit
  rcases hsplit with rfl | ⟨a, rfl⟩
  · refine ⟨[], bytes, [], rfl, hrest, ?_, fun more => rfl⟩
    exact ⟨.inl, fun h => h.elim id fun h => absurd (List.mem_of_getLast? h) hrest⟩
  · refine ⟨a ++ [newline], rest, a.splitOn newline, by simp, hrest, ?_, fun more => ?_⟩
    · constructor
      · rintro rfl
        exact .inr (by simp)
      · rintro (h | h)
        · simp at h
        · by_contra hne
          rw [List.append_cons, List.getLast?_append_of_ne_nil _ hne] at h
          exact hrest (List.mem_of_getLast? h)
    · rw [List.append_assoc, List.singleton_append, byteLines_append_newline]

/-! ## The two lines -/

def markerLines : List (List UInt8) := [Utf8.encode builtMarker, Utf8.encode libsMarker]

/-- the first marker is read with whatever stands before it on its line -/
theorem byteLines_append_ignoreLines {rest : List UInt8} (h : newline ∉ rest) :
    byteLines (rest ++ ignoreLines) = [rest ++ Utf8.encode builtMarker, Utf8.encode libsMarker] := by
  have hlines : ignoreLines = Utf8.encode builtMarker ++ newline :: (Utf8.encode libsMarker ++ [newline]) := by
    decide +kernel
  have hbuilt : newline ∉ Utf8.encode builtMarker := by decide +kernel
  have hlibs : newline ∉ Utf8.encode libsMarker := by decide +kernel
  rw [hlines, ← List.append_assoc, byteLines_append_newline, byteLines_append_newline, byteLines_nil,
    List.splitOn_eq_singleton (by simp [h, hbuilt]), List.splitOn_eq_singleton hlibs]
  rfl

/-- the two names are added as lines exactly if no line without an end stands before them; the last line of such a file
is run together with the first name -/
theorem byteLines_ignore (old : List UInt8) :
    (byteLines (old ++ ignoreLines) = byteLines old ++ markerLines ↔ old = [] ∨ old.getLast? = some newline) ∧
      (¬ (old = [] ∨ old.getLast? = some newline) → ∃ lines last, byteLines old = lines ++ [last] ∧
        byteLines (old ++ ignoreLines) = lines ++ [last ++ Utf8.encode builtMarker, Utf8.encode libsMarker]) := by
  obtain ⟨before, rest, lines, rfl, hrest, hend, hlines⟩ := exists_rest old
  rw [← hend, List.append_assoc, hlines, hlines, byteLines_append_ignoreLines hrest, List.append_assoc,
    List.append_cancel_left_eq]
  by_cases hnil : rest = []
  · subst hnil
    simp [byteLines_nil, markerLines]
  · rw [byteLines_of_not_mem hrest hnil]
    simp only [hnil, iff_false, not_false_eq_true, forall_const]
    refine ⟨fun h => ?_, lines, rest, rfl, rfl⟩
    -- one line too few
    have hlength := congrArg List.length h
    simp [markerLines] at hlength

/-! ## Fetching -/

/-- **Markers are ignored exactly if the ignore list had an end of line.** A fetch that succeeds leaves the list with
what it had before, when the repository was cloned and set to its revision, and with the names of the markers; these
are added as lines exactly if the last line had an end. -/
theorem fetch_adds_ignore_lines_iff {σ : Type} (runner : Runner σ) (entry : ManifestEntry) (dir : Path) (text : String)
    (w w' : World σ) (h : (fetch runner entry dir text).exec w = (.ok (), w')) :
    let file := inside dir ".gitignore"
    let cloned := w.after runner (cloneCommand entry.url text)
    let before := cloned.after runner (checkoutCommand entry.revision dir)
    ∃ old new, before.files.Content file old ∧ w'.files.read file = .ok new ∧ new = old ++ ignoreLines ∧
      (byteLines new = byteLines old ++ markerLines ↔ old = [] ∨ old.getLast? = some newline) ∧
      (¬ (old = [] ∨ old.getLast? = some newline) → ∃ lines last, byteLines old = lines ++ [last] ∧
        byteLines new = lines ++ [last ++ Utf8.encode builtMarker, Utf8.encode libsMarker]) := by
  intro file cloned before
  have hfetched := fetched_fetch runner entry dir text w
  rw [h] at hfetched
  cases hfetched with
  | done _ hcloned _ hbefore happend =>
    subst hcloned hbefore
    obtain ⟨old, hold, hnew⟩ := FileStore.edit_read happend
    exact ⟨old, _, hold, hnew, rfl, byteLines_ignore old⟩

/-- a runner that clones a project with an ignore list -/
def ignoring (list : String) : Runner Nat :=
  founder [⟨"https://example.com/foo", "foo", .dir [(Utf8.encode ".gitignore", .file (Utf8.encode list) false)]⟩] []

def fooEntry : ManifestEntry := ⟨"https://example.com/foo", "v1"⟩

def emptyRepos : World Nat := ⟨⟨.dir [(reposName, .empty)], []⟩, 0, []⟩

def fetchFoo (list : String) : Except BuildError Unit × World Nat :=
  (fetch (ignoring list) fooEntry (.ofString "repos/foo") "repos/foo").exec emptyRepos

/-- a list whose last line has an end gains two lines -/
theorem fetch_adds_ignore_lines_ended :
    (fetchFoo "target\n").1 = .ok () ∧
      ∃ new, (fetchFoo "target\n").2.files.read (inside (.ofString "repos/foo") ".gitignore") = .ok new ∧
        byteLines new = [Utf8.encode "target"] ++ markerLines := by
  have hok : (fetchFoo "target\n").1 = .ok () := by decide +kernel
  have hread : ((emptyRepos.after (ignoring "target\n") (cloneCommand fooEntry.url "repos/foo")).after
      (ignoring "target\n") (checkoutCommand fooEntry.revision (.ofString "repos/foo"))).files.read
        (inside (.ofString "repos/foo") ".gitignore") = .ok (Utf8.encode "target\n") := by
    decide +kernel
  obtain ⟨old, new, hold, hnew, -, hiff, -⟩ := fetch_adds_ignore_lines_iff (ignoring "target\n") fooEntry
    (.ofString "repos/foo") "repos/foo" emptyRepos (fetchFoo "target\n").2 (Prod.ext hok rfl)
  obtain rfl : old = Utf8.encode "target\n" := by
    rcases hold with h | ⟨h, -⟩
    · exact Except.ok.inj (h.symm.trans hread)
    · cases h.symm.trans hread
  refine ⟨hok, new, hnew, ?_⟩
  rw [hiff.2 (.inr (by decide +kernel))]
  decide +kernel

/-- a list whose last line has no end gains one line, and loses that one -/
theorem fetch_joins_ignore_lines :
    (fetchFoo "target").1 = .ok () ∧ byteLines (Utf8.encode "target") = [Utf8.encode "target"] ∧
      ∃ new, (fetchFoo "target").2.files.read (inside (.ofString "repos/foo") ".gitignore") = .ok new ∧
        byteLines new = [Utf8.encode "target.built", Utf8.encode ".libs"] :=
  ⟨by decide +kernel, by decide +kernel, Utf8.encode "target.built\n.libs\n", by decide +kernel, by decide +kernel⟩

end Benchwork.Build.Repository
