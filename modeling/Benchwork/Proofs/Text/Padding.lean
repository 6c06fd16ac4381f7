/-
Blanks around a text.

A text is `Bare` if it has no blank at either end, and `Padded` is a text with blanks around it. Trimming gives the one
bare text that was padded (`trimChars_eq_iff`).

The first separator is where a text without one ends (`cutAt_eq_some_iff`). A text that is taken off the end, if it stands
there, is taken off once (`dropEnd?_getD_eq_iff`).
-/
import Mathlib.Data.List.DropRight
import Mathlib.Data.List.TakeWhile
import Mathlib.Tactic
import Benchwork.Text.Blank
import Benchwork.Text.Pattern

namespace Benchwork.Text

/-! ## Trimming -/

structure Bare (t : List Char) : Prop where
  first : ∀ c ∈ t.head?, isBlank c = false
  last : ∀ c ∈ t.getLast?, isBlank c = false

/-- `cs` is `t` with nothing but blanks around it -/
def Padded (t cs : List Char) : Prop :=
  ∃ before after, cs = before ++ (t ++ after) ∧ (∀ c ∈ before, isBlank c = true) ∧ ∀ c ∈ after, isBlank c = true

theorem bare_of_forall {t : List Char} (h : ∀ c ∈ t, isBlank c = false) : Bare t :=
  ⟨fun c hc => h c (List.mem_of_mem_head? hc), fun c hc => h c (List.mem_of_mem_getLast? hc)⟩

theorem Padded.refl (t : List Char) : Padded t t := ⟨[], [], by simp, by simp, by simp⟩

/-- what is in a padded text is in the text or a blank -/
theorem Padded.mem {t cs : List Char} (h : Padded t cs) {c : Char} (hc : c ∈ cs) : c ∈ t ∨ isBlank c = true := by
  obtain ⟨before, after, rfl, hbefore, hafter⟩ := h
  rcases List.mem_append.1 hc with hc | hc
  · exact .inr (hbefore c hc)
  · exact (List.mem_append.1 hc).imp_right (hafter c)

theorem Padded.mem_of_mem {t cs : List Char} (h : Padded t cs) {c : Char} (hc : c ∈ t) : c ∈ cs := by
  obtain ⟨before, after, rfl, -, -⟩ := h
  exact List.mem_append_right _ (List.mem_append_left _ hc)

theorem dropEndWhile_append {p : Char → Bool} {after : List Char} (h : ∀ c ∈ after, p c = true) (t : List Char) :
    dropEndWhile p (t ++ after) = dropEndWhile p t := by
  have hback : ∀ c ∈ after.reverse, p c = true := fun c hc => h c (List.mem_reverse.1 hc)
  rw [dropEndWhile, List.reverse_append, List.dropWhile_append_of_pos hback, dropEndWhile]

theorem dropEndWhile_eq_self {p : Char → Bool} {t : List Char} (h : ∀ c ∈ t.getLast?, p c = false) :
    dropEndWhile p t = t := by
  change t.rdropWhile p = t
  rw [List.rdropWhile_eq_self_iff]
  intro hne
  simpa using h _ (List.getLast?_eq_some_getLast hne)

theorem not_of_mem_getLast?_dropEndWhile {p : Char → Bool} {t : List Char} {c : Char}
    (h : c ∈ (dropEndWhile p t).getLast?) : p c = false := by
  have hne : t.rdropWhile p ≠ [] := List.ne_nil_of_mem (List.mem_of_mem_getLast? h)
  have hlast := List.rdropWhile_last_not p t hne
  rw [(List.getLast_eq_iff_getLast?_eq_some hne).2 h] at hlast
  simpa using hlast

/-- what is left of a text has nothing to drop at its end, and everything behind it is dropped -/
theorem dropEndWhile_eq_iff {p : Char → Bool} {cs t : List Char} :
    dropEndWhile p cs = t ↔
      (∀ c ∈ t.getLast?, p c = false) ∧ ∃ after, cs = t ++ after ∧ ∀ c ∈ after, p c = true := by
  constructor
  · rintro rfl
    exact ⟨fun c hc => not_of_mem_getLast?_dropEndWhile hc, cs.rtakeWhile p,
      List.rdropWhile_append_rtakeWhile.symm, fun c hc => List.mem_rtakeWhile_imp hc⟩
  · rintro ⟨hlast, after, rfl, hafter⟩
    rw [dropEndWhile_append hafter, dropEndWhile_eq_self hlast]

/-- nothing before a character that stays is dropped -/
theorem dropEndWhile_append_cons {p : Char → Bool} {c : Char} (h : p c = false) (t ds : List Char) :
    dropEndWhile p (t ++ c :: ds) = t ++ c :: dropEndWhile p ds := by
  change (t ++ c :: ds).rdropWhile p = t ++ c :: ds.rdropWhile p
  induction ds using List.reverseRecOn with
  | nil => simpa using List.rdropWhile_concat_neg p t c (by simp [h])
  | append_singleton ds d ih =>
    rw [← List.cons_append, ← List.append_assoc]
    by_cases hd : p d = true
    · rw [List.rdropWhile_concat_pos p _ d hd, List.rdropWhile_concat_pos p _ d hd, ih]
    · rw [List.rdropWhile_concat_neg p _ d hd, List.rdropWhile_concat_neg p _ d hd, List.append_assoc, List.cons_append]

theorem padded_trimChars (cs : List Char) : Padded (trimChars cs) cs := by
  refine ⟨cs.takeWhile isBlank, (cs.dropWhile isBlank).rtakeWhile isBlank, ?_, fun c hc => List.mem_takeWhile_imp hc,
    fun c hc => List.mem_rtakeWhile_imp hc⟩
  change cs = _ ++ ((cs.dropWhile isBlank).rdropWhile isBlank ++ _)
  rw [List.rdropWhile_append_rtakeWhile, List.takeWhile_append_dropWhile]

theorem bare_trimChars (cs : List Char) : Bare (trimChars cs) := by
  constructor
  · intro c hc
    -- the first character of what is left is the first one behind the blanks
    obtain ⟨rest, hrest⟩ : trimChars cs <+: cs.dropWhile isBlank := List.rdropWhile_prefix isBlank _
    have hfirst := List.head?_dropWhile_not isBlank cs
    rw [← hrest, List.head?_append, hc] at hfirst
    simpa using hfirst
  · intro c hc
    exact not_of_mem_getLast?_dropEndWhile hc

/-- what trimming leaves is the bare text that has blanks around it -/
theorem trimChars_eq_iff {cs t : List Char} : trimChars cs = t ↔ Bare t ∧ Padded t cs := by
  constructor
  · rintro rfl
    exact ⟨bare_trimChars cs, padded_trimChars cs⟩
  · rintro ⟨hbare, before, after, rfl, hbefore, hafter⟩
    rw [trimChars, List.dropWhile_append_of_pos hbefore]
    cases t with
    | nil =>
      have hdrop : after.dropWhile isBlank = [] := List.dropWhile_eq_nil_iff.2 hafter
      rw [List.nil_append, hdrop]
      rfl
    | cons c t =>
      have hc : ¬ isBlank c = true := by simpa using hbare.first c rfl
      rw [List.cons_append, List.dropWhile_cons_of_neg hc, ← List.cons_append, dropEndWhile_append hafter,
        dropEndWhile_eq_self hbare.last]

/-! ## Cutting -/

/-- the first separator is where a text without one ends -/
theorem cutAt_append {α : Type} [DecidableEq α] {sep : α} {a : List α} (h : sep ∉ a) (b : List α) :
    cutAt sep (a ++ sep :: b) = some (a, b) := by
  induction a with
  | nil => simp [cutAt]
  | cons c cs ih =>
    obtain ⟨hc, hcs⟩ := List.ne_and_not_mem_of_not_mem_cons h
    rw [List.cons_append, cutAt, if_neg (Ne.symm hc), ih hcs]
    rfl

theorem cutAt_eq_some_iff {α : Type} [DecidableEq α] {sep : α} {l a b : List α} :
    cutAt sep l = some (a, b) ↔ l = a ++ sep :: b ∧ sep ∉ a := by
  constructor
  · intro h
    induction l generalizing a with
    | nil => cases h
    | cons c cs ih =>
      rw [cutAt] at h
      split_ifs at h with hc
      · obtain ⟨rfl, rfl⟩ := Prod.mk.inj (Option.some.inj h)
        simp [hc]
      · obtain ⟨⟨a', b'⟩, hcut, heq⟩ := Option.map_eq_some_iff.1 h
        obtain ⟨rfl, rfl⟩ := Prod.mk.inj heq
        obtain ⟨rfl, hmem⟩ := ih hcut
        exact ⟨rfl, List.not_mem_cons_of_ne_of_not_mem (Ne.symm hc) hmem⟩
  · rintro ⟨rfl, h⟩
    exact cutAt_append h b

theorem dropEnd?_eq_some_iff {pat s t : String} : dropEnd? pat s = some t ↔ s = t ++ pat := by
  rw [dropEnd?]
  constructor
  · intro h
    split_ifs at h with hpat
    obtain ⟨u, hu⟩ := List.isSuffixOf_iff_suffix.1 hpat
    obtain rfl := Option.some.inj h
    apply String.toList_injective
    simp [← hu]
  · rintro rfl
    rw [if_pos (List.isSuffixOf_iff_suffix.2 (by simp))]
    simp

theorem dropEnd?_eq_none_iff {pat s : String} : dropEnd? pat s = none ↔ ¬ pat.toList <:+ s.toList := by
  rw [dropEnd?]
  split_ifs with hpat
  · simp [List.isSuffixOf_iff_suffix.1 hpat]
  · simpa using fun h => hpat (List.isSuffixOf_iff_suffix.2 h)

/-- a text gives `t` if it is `t` with `pat` behind it, or `t` itself without `pat` at its end -/
theorem dropEnd?_getD_eq_iff {pat s t : String} :
    (dropEnd? pat s).getD s = t ↔ s = t ++ pat ∨ s = t ∧ ¬ pat.toList <:+ t.toList := by
  cases h : dropEnd? pat s with
  | none =>
    have hpat := dropEnd?_eq_none_iff.1 h
    have hne : s ≠ t ++ pat := fun hs => hpat (by simp [hs])
    simp only [Option.getD_none, hne, false_or]
    exact ⟨fun hs => ⟨hs, hs ▸ hpat⟩, And.left⟩
  | some u =>
    obtain rfl := dropEnd?_eq_some_iff.1 h
    simp only [Option.getD_some]
    constructor
    · rintro rfl
      exact .inl rfl
    · rintro (hs | ⟨rfl, hpat⟩)
      · simpa using hs
      · exact absurd (by simp) hpat

end Benchwork.Text
