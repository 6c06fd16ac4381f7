/-
Lines of a text.

`CutInto` says how a text is put together from its lines: each ends at a newline, with which one carriage return right
before it goes, and what stands behind the last newline is a line if it is anything. Every text is cut in this one way
(`linesOf_eq_iff`). So a text that ends with a newline, or is empty, leaves the lines of what follows it alone
(`linesOf_append`).
-/
import Mathlib.Data.List.TakeWhile
import Mathlib.Tactic
import Benchwork.Text.Blank

namespace Benchwork.Text

/-- the lines that a text is made of -/
inductive CutInto : List Char → List (List Char) → Prop
  | empty : CutInto [] []
  | last {line : List Char} (hne : line ≠ []) (hline : '\n' ∉ line) : CutInto line [line]
  | newline {line text : List Char} {lines : List (List Char)} (hline : '\n' ∉ line)
      (hreturn : line.getLast? ≠ some '\r') (htext : CutInto text lines) :
      CutInto (line ++ '\n' :: text) (line :: lines)
  | returned {line text : List Char} {lines : List (List Char)} (hline : '\n' ∉ line) (htext : CutInto text lines) :
      CutInto (line ++ '\r' :: '\n' :: text) (line :: lines)

theorem dropReturn_of_ne {line : List Char} (h : line.getLast? ≠ some '\r') : dropReturn line = line := if_neg h

theorem dropReturn_append_return (line : List Char) : dropReturn (line ++ ['\r']) = line := by
  simp [dropReturn]

@[simp]
theorem linesOf_nil : linesOf [] = [] := by
  rw [linesOf]

theorem linesOf_of_not_mem {line : List Char} (hne : line ≠ []) (h : '\n' ∉ line) : linesOf line = [line] := by
  have hall : ∀ c ∈ line, decide (c ≠ '\n') = true := fun c hc => by simpa using fun e : c = '\n' => h (e ▸ hc)
  obtain ⟨c, rest, rfl⟩ := List.exists_cons_of_ne_nil hne
  rw [linesOf]
  split
  · rw [List.takeWhile_eq_self_iff.2 hall]
  · rename_i hdrop
    rw [List.dropWhile_eq_nil_iff.2 hall] at hdrop
    cases hdrop

theorem linesOf_append_newline {line : List Char} (h : '\n' ∉ line) (text : List Char) :
    linesOf (line ++ '\n' :: text) = dropReturn line :: linesOf text := by
  have hall : ∀ c ∈ line, decide (c ≠ '\n') = true := fun c hc => by simpa using fun e : c = '\n' => h (e ▸ hc)
  have htake : (line ++ '\n' :: text).takeWhile (fun c => decide (c ≠ '\n')) = line := by
    rw [List.takeWhile_append_of_pos hall, List.takeWhile_cons_of_neg (by simp), List.append_nil]
  have hdrop : (line ++ '\n' :: text).dropWhile (fun c => decide (c ≠ '\n')) = '\n' :: text := by
    rw [List.dropWhile_append_of_pos hall, List.dropWhile_cons_of_neg (by simp)]
  obtain ⟨c, rest, hcons⟩ : ∃ c rest, line ++ '\n' :: text = c :: rest := List.exists_cons_of_ne_nil (by simp)
  rw [hcons] at htake hdrop ⊢
  rw [linesOf]
  split
  · rename_i hnil
    rw [hdrop] at hnil
    cases hnil
  · rename_i more hmore
    rw [hdrop] at hmore
    rw [htake, (List.cons.inj hmore).2]

theorem CutInto.linesOf_eq {text : List Char} {lines : List (List Char)} (h : CutInto text lines) :
    linesOf text = lines := by
  induction h with
  | empty => exact linesOf_nil
  | last hne hline => exact linesOf_of_not_mem hne hline
  | newline hline hreturn _ ih => rw [linesOf_append_newline hline, dropReturn_of_ne hreturn, ih]
  | @returned line text _ hline _ ih =>
    rw [List.append_cons, linesOf_append_newline (by simp [hline]), dropReturn_append_return, ih]

theorem exists_cutInto (text : List Char) : ∃ lines, CutInto text lines := by
  by_cases hmem : '\n' ∈ text
  · obtain ⟨line, rest, rfl, hline⟩ := List.eq_append_cons_of_mem hmem
    obtain ⟨lines, hlines⟩ := exists_cutInto rest
    by_cases hreturn : line.getLast? = some '\r'
    · obtain ⟨line, rfl⟩ := List.getLast?_eq_some_iff.1 hreturn
      rw [List.append_assoc]
      exact ⟨line :: lines, .returned (fun h => hline (List.mem_append_left _ h)) hlines⟩
    · exact ⟨line :: lines, .newline hline hreturn hlines⟩
  · by_cases hnil : text = []
    · exact ⟨[], hnil ▸ .empty⟩
    · exact ⟨[text], .last hnil hmem⟩
termination_by text.length

/-- a text is cut in one way -/
theorem linesOf_eq_iff {text : List Char} {lines : List (List Char)} : linesOf text = lines ↔ CutInto text lines := by
  refine ⟨?_, CutInto.linesOf_eq⟩
  rintro rfl
  obtain ⟨lines, hlines⟩ := exists_cutInto text
  rwa [hlines.linesOf_eq]

/-- no line of the text goes on behind its end -/
def Ended (text : List Char) : Prop := text = [] ∨ text.getLast? = some '\n'

theorem Ended.of_append_cons {line text : List Char} (h : Ended (line ++ '\n' :: text)) : Ended text := by
  by_cases hnil : text = []
  · exact .inl hnil
  · rw [Ended, List.append_cons, List.getLast?_append_of_ne_nil _ hnil] at h
    exact .inr (h.resolve_left (by simp))

theorem linesOf_append {a : List Char} (ha : Ended a) (b : List Char) : linesOf (a ++ b) = linesOf a ++ linesOf b := by
  have hcut := linesOf_eq_iff.1 (rfl : linesOf a = _)
  generalize linesOf a = lines at hcut ⊢
  induction hcut with
  | empty => rfl
  | last hne hline => exact absurd (ha.resolve_left hne) fun h => hline (List.mem_of_getLast? h)
  | newline hline hreturn _ ih =>
    rw [List.append_assoc, List.cons_append, linesOf_append_newline hline, ih ha.of_append_cons, dropReturn_of_ne hreturn]
    rfl
  | @returned line text _ hline _ ih =>
    rw [List.append_cons] at ha ⊢
    rw [List.append_assoc, List.cons_append, linesOf_append_newline (by simp [hline]), ih ha.of_append_cons,
      dropReturn_append_return]
    rfl

/-! ## Writing lines -/

/-- a line that reads back as it is written, whatever ends it -/
structure IsLine (line : List Char) : Prop where
  ne_nil : line ≠ []
  whole : '\n' ∉ line
  kept : line.getLast? ≠ some '\r'

theorem linesOf_ended {lines : List (List Char)} (h : ∀ line ∈ lines, IsLine line) :
    linesOf (lines.flatMap fun line => line ++ ['\n']) = lines := by
  induction lines with
  | nil => exact linesOf_nil
  | cons line lines ih =>
    obtain ⟨hline, hlines⟩ := List.forall_mem_cons.1 h
    rw [List.flatMap_cons, List.append_assoc, List.singleton_append, linesOf_append_newline hline.whole,
      dropReturn_of_ne hline.kept, ih hlines]

theorem linesOf_intercalate {lines : List (List Char)} (h : ∀ line ∈ lines, IsLine line) :
    linesOf (['\n'].intercalate lines) = lines := by
  induction lines with
  | nil => exact linesOf_nil
  | cons line lines ih =>
    obtain ⟨hline, hlines⟩ := List.forall_mem_cons.1 h
    cases lines with
    | nil => simpa using linesOf_of_not_mem hline.ne_nil hline.whole
    | cons next lines =>
      rw [List.intercalate_cons_cons, List.append_assoc, List.singleton_append, linesOf_append_newline hline.whole,
        dropReturn_of_ne hline.kept, ih hlines]

end Benchwork.Text
