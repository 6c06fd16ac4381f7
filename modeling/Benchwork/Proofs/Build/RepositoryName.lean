/-
The name of a repository.

It is the last segment of the URL that has anything in it, without `.git` at its end (`repoName_eq`). So it has no slash,
and it can be asked for unless there is nothing left of it or it is `.` or `..`. That is so for six last segments, and
for no others (`isOrdinary_dirName`).

A segment is the last one exactly if nothing but slashes stands behind it, and a slash or nothing before it
(`lastSegment_eq_iff`). So URLs that differ in `.git` and slashes at their end have one name, and a segment is the name of
no other URLs (`repoName_ignores_spelling`).
-/
import Benchwork.Proofs.Build.Stages
import Benchwork.Proofs.Files.Paths
import Benchwork.Proofs.Text.Padding

namespace Benchwork.Build.ManifestEntry

open Benchwork.Text

/-- the last segment of a URL that has anything in it -/
def lastSegment (url : String) : String :=
  String.ofList (((url.toList.splitOn '/').filter (· ≠ [])).getLast?.getD [])

/-- the last segments that leave no name to ask for -/
def hollowSegments : List String := ["", ".", "..", ".git", "..git", "...git"]

/-! ## The last segment -/

/-- slashes at the end do not count -/
theorem filter_splitOn_dropEndWhile (url : List Char) :
    ((dropEndWhile (· = '/') url).splitOn '/').filter (· ≠ []) = (url.splitOn '/').filter (· ≠ []) := by
  induction url using List.reverseRecOn with
  | nil => rfl
  | append_singleton url c ih =>
    by_cases hc : c = '/'
    · subst hc
      have hdrop : dropEndWhile (· = '/') (url ++ ['/']) = dropEndWhile (· = '/') url := by simp [dropEndWhile]
      rw [hdrop, ih, List.splitOn_append_cons_self]
      simp
    · have hdrop : dropEndWhile (· = '/') (url ++ [c]) = url ++ [c] := by simp [dropEndWhile, hc]
      rw [hdrop]

theorem lastSegment_eq (url : String) :
    lastSegment url = String.ofList (lastPiece '/' (dropEndWhile (· = '/') url.toList)) := by
  rw [lastSegment, ← filter_splitOn_dropEndWhile]
  generalize htrim : dropEndWhile (· = '/') url.toList = trimmed
  obtain ⟨pieces, hpieces⟩ := splitOn_eq_append_lastPiece '/' trimmed
  by_cases hlast : lastPiece '/' trimmed = []
  · -- nothing behind the last slash, though no slash is at the end: there is nothing at all
    have hnil : trimmed = [] := by
      rcases eq_lastPiece_or '/' trimmed with h | ⟨before, h⟩
      · rw [h, hlast]
      · rw [hlast] at h
        have hend : '/' ∈ (dropEndWhile (· = '/') url.toList).getLast? := by
          rw [htrim, h]
          simp
        exact absurd (not_of_mem_getLast?_dropEndWhile hend) (by simp)
    rw [hlast, hnil]
    rfl
  · rw [hpieces, List.filter_append]
    simp [hlast]

theorem repoName_eq (e : ManifestEntry) :
    e.repoName = (dropEnd? ".git" (lastSegment e.url)).getD (lastSegment e.url) := by
  rw [lastSegment_eq]
  rfl

/-! ## Names that can be asked for -/

theorem mem_hollowSegments {s : String} :
    (dropEnd? ".git" s).getD s ∈ ["", ".", ".."] ↔ s ∈ hollowSegments := by
  have hempty : (dropEnd? ".git" s).getD s = "" ↔ s = ".git" ∨ s = "" := by
    rw [dropEnd?_getD_eq_iff, and_iff_left (by decide), show "" ++ ".git" = ".git" by decide]
  have hdot : (dropEnd? ".git" s).getD s = "." ↔ s = "..git" ∨ s = "." := by
    rw [dropEnd?_getD_eq_iff, and_iff_left (by decide), show "." ++ ".git" = "..git" by decide]
  have hup : (dropEnd? ".git" s).getD s = ".." ↔ s = "...git" ∨ s = ".." := by
    rw [dropEnd?_getD_eq_iff, and_iff_left (by decide), show ".." ++ ".git" = "...git" by decide]
  simp only [hollowSegments, List.mem_cons, List.not_mem_nil, hempty, hdot, hup, or_comm, or_left_comm]

/-- a name can be asked for exactly if the last segment of the URL is none of those that leave nothing -/
theorem isOrdinary_dirName (e : ManifestEntry) :
    Path.IsOrdinary e.dirName ↔ lastSegment e.url ∉ hollowSegments := by
  have hencode : ∀ s : String, e.dirName = Utf8.encode s ↔ e.repoName = s :=
    fun s => ⟨Utf8.encode_injective, fun h => congrArg Utf8.encode h⟩
  have hempty : e.dirName = [] ↔ e.repoName = "" := hencode ""
  have hdot : e.dirName = [Path.dot] ↔ e.repoName = "." := hencode "."
  have hup : e.dirName = [Path.dot, Path.dot] ↔ e.repoName = ".." := hencode ".."
  rw [← mem_hollowSegments, ← repoName_eq, Path.IsOrdinary, Ne, Ne, Ne, hempty, hdot, hup]
  simp [e.slash_not_mem_dirName]

/-! ## Spellings of a URL -/

/-- what a segment can stand behind: nothing, or a text with a slash at its end -/
def IsBase (p : String) : Prop := p = "" ∨ ∃ q, p = q ++ "/"

/-- a segment that is a name as it stands: there is something in it, no slash, and no `.git` at its end -/
structure IsName (s : String) : Prop where
  ne_empty : s ≠ ""
  no_slash : '/' ∉ s.toList
  no_git : ¬ ".git".toList <:+ s.toList

def slashes (k : Nat) : String := String.ofList (List.replicate k '/')

/-- the usual ways to write a URL that ends in the segment `s`, with `k` slashes where there are slashes behind it -/
def spellings (p s : String) (k : Nat) : List String :=
  [p ++ s, p ++ s ++ slashes k, p ++ s ++ ".git", p ++ s ++ ".git" ++ slashes k]

/-- a text without slashes is the last piece exactly if it stands at the end, behind a base -/
theorem lastPiece_eq_iff_isBase {t : List Char} {s : String} (hs : '/' ∉ s.toList) :
    lastPiece '/' t = s.toList ↔ ∃ p, IsBase p ∧ t = (p ++ s).toList := by
  rw [lastPiece_eq_iff, and_iff_right hs]
  constructor
  · rintro (rfl | ⟨before, rfl⟩)
    · exact ⟨"", .inl rfl, by simp⟩
    · exact ⟨String.ofList before ++ "/", .inr ⟨_, rfl⟩, by simp⟩
  · rintro ⟨_, rfl | ⟨q, rfl⟩, rfl⟩
    · exact .inl (by simp)
    · exact .inr ⟨q.toList, by simp⟩

theorem dropEndWhile_slash_eq_iff {url t : String} :
    dropEndWhile (· = '/') url.toList = t.toList ↔ t.toList.getLast? ≠ some '/' ∧ ∃ k, url = t ++ slashes k := by
  have hend : (∀ c ∈ t.toList.getLast?, decide (c = '/') = false) ↔ t.toList.getLast? ≠ some '/' := by
    constructor
    · intro h hlast
      simpa using h '/' hlast
    · intro h c hc
      simpa using fun hslash : c = '/' => h (hslash ▸ hc)
  rw [dropEndWhile_eq_iff, hend]
  refine and_congr_right fun _ => ⟨?_, ?_⟩
  · rintro ⟨after, hurl, hafter⟩
    have hslashes : after = List.replicate after.length '/' :=
      List.eq_replicate_of_mem fun c hc => by simpa using hafter c hc
    refine ⟨after.length, String.toList_injective ?_⟩
    rw [hurl, slashes, ← hslashes, String.toList_append, String.toList_ofList]
  · rintro ⟨k, rfl⟩
    exact ⟨List.replicate k '/', by simp [slashes], fun c hc => by simpa using List.eq_of_mem_replicate hc⟩

/-- a segment is the last one exactly if it stands behind a base, with nothing but slashes behind it -/
theorem lastSegment_eq_iff {url s : String} (hs : s ≠ "") :
    lastSegment url = s ↔ '/' ∉ s.toList ∧ ∃ p k, IsBase p ∧ url = p ++ s ++ slashes k := by
  rw [lastSegment_eq, ← String.toList_inj, String.toList_ofList]
  constructor
  · intro h
    have hslash : '/' ∉ s.toList := h ▸ not_mem_lastPiece '/' _
    obtain ⟨p, hp, htrim⟩ := (lastPiece_eq_iff_isBase hslash).1 h
    obtain ⟨-, k, hurl⟩ := dropEndWhile_slash_eq_iff.1 htrim
    exact ⟨hslash, p, k, hp, hurl⟩
  · rintro ⟨hslash, p, k, hp, hurl⟩
    have hlast : (p ++ s).toList.getLast? ≠ some '/' := by
      rw [String.toList_append, List.getLast?_append_of_ne_nil _ (by simpa using hs)]
      exact fun h => hslash (List.mem_of_mem_getLast? h)
    exact (lastPiece_eq_iff_isBase hslash).2 ⟨p, hp, dropEndWhile_slash_eq_iff.2 ⟨hlast, k, hurl⟩⟩

theorem repoName_eq_iff {e : ManifestEntry} {s : String} :
    e.repoName = s ↔ lastSegment e.url = s ++ ".git" ∨ lastSegment e.url = s ∧ ¬ ".git".toList <:+ s.toList := by
  rw [repoName_eq, dropEnd?_getD_eq_iff]

theorem exists_mem_spellings {url s : String} :
    (∃ p k, IsBase p ∧ url ∈ spellings p s k) ↔
      (∃ p k, IsBase p ∧ url = p ++ (s ++ ".git") ++ slashes k) ∨ ∃ p k, IsBase p ∧ url = p ++ s ++ slashes k := by
  have hnone : slashes 0 = "" := rfl
  constructor
  · rintro ⟨p, k, hp, hurl⟩
    simp only [spellings, List.mem_cons, List.not_mem_nil, or_false] at hurl
    rcases hurl with rfl | rfl | rfl | rfl
    · exact .inr ⟨p, 0, hp, by rw [hnone, String.append_empty]⟩
    · exact .inr ⟨p, k, hp, rfl⟩
    · exact .inl ⟨p, 0, hp, by rw [hnone, String.append_empty, String.append_assoc]⟩
    · exact .inl ⟨p, k, hp, by simp [String.append_assoc]⟩
  · rintro (⟨p, k, hp, rfl⟩ | ⟨p, k, hp, rfl⟩)
    · exact ⟨p, k, hp, by simp [spellings, String.append_assoc]⟩
    · exact ⟨p, k, hp, by simp [spellings]⟩

/-- **A repository has one name, however its URL is spelled.** No name has a slash, and a segment that is a name as it
stands is the name of exactly the URLs that are spelled with it: behind any base, with or without `.git` and slashes at
the end. -/
theorem repoName_ignores_spelling (e : ManifestEntry) :
    '/' ∉ e.repoName.toList ∧
      ∀ s, IsName s → (e.repoName = s ↔ ∃ p k, IsBase p ∧ e.url ∈ spellings p s k) := by
  refine ⟨slash_not_mem_repoNameOf e.url.toList, fun s hs => ?_⟩
  have hgit : s ++ ".git" ≠ "" := by simp
  have hslash : '/' ∉ (s ++ ".git").toList := by simp [hs.no_slash]
  rw [repoName_eq_iff, exists_mem_spellings, lastSegment_eq_iff hgit, lastSegment_eq_iff hs.ne_empty,
    and_iff_right hslash, and_iff_right hs.no_slash, and_iff_left hs.no_git]

/-- two slashes behind `.git` -/
theorem repoName_baz :
    let e : ManifestEntry := ⟨"https://github.com/org/baz.git//", "HEAD"⟩
    IsName "baz" ∧ IsBase "https://github.com/org/" ∧ e.url ∈ spellings "https://github.com/org/" "baz" 2 ∧
      e.repoName = "baz" := by
  intro e
  have hname : IsName "baz" := ⟨by decide, by decide, by decide⟩
  have hbase : IsBase "https://github.com/org/" := .inr ⟨"https://github.com/org", by decide⟩
  have hurl : e.url ∈ spellings "https://github.com/org/" "baz" 2 := by decide
  exact ⟨hname, hbase, hurl, ((repoName_ignores_spelling e).2 "baz" hname).2 ⟨_, 2, hbase, hurl⟩⟩

end Benchwork.Build.ManifestEntry
