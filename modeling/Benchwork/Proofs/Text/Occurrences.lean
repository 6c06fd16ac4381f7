/-
How often a text stands in another.

No occurrence of a text runs over a character that it does not have, so such a character cuts the text around it in two
parts that are counted apart (`occurrences_append_cons`). A text that starts with a character and has it nowhere else is
found only where that character stands (`occurrences_append_of_not_mem`, `occurrences_cons_of_not_mem`).
-/
import Mathlib.Tactic
import Benchwork.Text.Pattern

namespace Benchwork.Text

/-- how many places of a text `pat` stands at -/
def occurrences (pat : List Char) : List Char → Nat
  | [] => 0
  | c :: cs => (if pat.isPrefixOf (c :: cs) then 1 else 0) + occurrences pat cs

def count (pat s : String) : Nat := occurrences pat.toList s.toList

section Cut

variable {pat a b : List Char} {x : Char}

/-- a start of a text ends before a character that it does not have -/
theorem prefix_append_cons_iff (hx : x ∉ pat) : pat <+: a ++ x :: b ↔ pat <+: a := by
  constructor
  · intro h
    have hcut : a ++ [x] <+: a ++ x :: b := by simp
    rcases List.prefix_or_prefix_of_prefix h hcut with hshort | hlong
    · rcases List.prefix_concat_iff.1 hshort with rfl | hstart
      · simp at hx
      · exact hstart
    · exact absurd (hlong.subset (by simp)) hx
  · intro h
    exact h.trans (List.prefix_append a (x :: b))

theorem isPrefixOf_append_cons (hx : x ∉ pat) : pat.isPrefixOf (a ++ x :: b) = pat.isPrefixOf a := by
  rw [Bool.eq_iff_iff, List.isPrefixOf_iff_prefix, List.isPrefixOf_iff_prefix, prefix_append_cons_iff hx]

/-- a character that the text does not have cuts the occurrences apart -/
theorem occurrences_append_cons (hpat : pat ≠ []) (hx : x ∉ pat) :
    occurrences pat (a ++ x :: b) = occurrences pat a + occurrences pat b := by
  induction a with
  | nil =>
    have hnil : pat.isPrefixOf (x :: b) = pat.isPrefixOf [] := isPrefixOf_append_cons (a := []) hx
    have hfalse : pat.isPrefixOf [] = false := by
      cases pat with
      | nil => exact absurd rfl hpat
      | cons p pat => rfl
    simp [occurrences, hnil, hfalse]
  | cons c a ih =>
    have hcut : pat.isPrefixOf (c :: (a ++ x :: b)) = pat.isPrefixOf (c :: a) := isPrefixOf_append_cons (a := c :: a) hx
    rw [List.cons_append, occurrences, hcut, ih, occurrences, Nat.add_assoc]

end Cut

section Start

variable {c : Char} {w a b : List Char}

/-- nothing is found where the first character is not -/
theorem occurrences_append_of_not_mem (h : c ∉ a) : occurrences (c :: w) (a ++ b) = occurrences (c :: w) b := by
  induction a with
  | nil => rfl
  | cons d a ih =>
    obtain ⟨hd, ha⟩ := List.ne_and_not_mem_of_not_mem_cons h
    rw [List.cons_append, occurrences, List.isPrefixOf_cons_cons, ih ha]
    simp [hd]

theorem occurrences_of_not_mem (h : c ∉ a) : occurrences (c :: w) a = 0 := by
  have hnone := occurrences_append_of_not_mem (w := w) (b := []) h
  rw [List.append_nil] at hnone
  exact hnone

/-- where the first character stands once, it decides -/
theorem occurrences_cons_of_not_mem (h : c ∉ a) :
    occurrences (c :: w) (c :: a) = if w.isPrefixOf a then 1 else 0 := by
  rw [occurrences, occurrences_of_not_mem h, List.isPrefixOf_cons_cons]
  simp

end Start

end Benchwork.Text
