/-
What is left of a text after a replacement.

A text that does not have the pattern in it stays as it is. Otherwise something new could arise where the text that was
put in meets what stands beside it. `Foreign` rules that out: the text put in starts with a character that is not in the
word looked for, which in turn starts with one that is not in the text put in. Then each occurrence of the word in the
result is one in the old text, at a place where the pattern does not stand (`exists_place`). So no word arises that is
foreign to the text put in (`Foreign.occurs_of_replaceAll`), and of a pattern that is, none is left
(`Foreign.absent_replaceAll`), however its occurrences overlap or follow each other.
-/
import Mathlib.Tactic
import Benchwork.Text.Pattern

namespace Benchwork.Text

variable {pat sub p cs : List Char}

theorem toList_replace (pat sub s : String) : (replace pat sub s).toList = replaceAll pat.toList sub.toList s.toList :=
  String.toList_ofList

theorem replaceAll_of_absent (h : ¬ pat <:+: cs) (sub : List Char) : replaceAll pat sub cs = cs := by
  fun_induction replaceAll pat sub cs with
  | case1 => rfl
  | case2 c rest hpat ih => exact absurd (List.isPrefixOf_iff_prefix.1 hpat.2).isInfix h
  | case3 c rest hpat ih => rw [ih fun hrest => h (List.infix_cons hrest)]

theorem mem_replaceAll {c : Char} (h : c ∈ replaceAll pat sub cs) : c ∈ sub ∨ c ∈ cs := by
  fun_induction replaceAll pat sub cs with
  | case1 => cases h
  | case2 d rest hpat ih =>
    rcases List.mem_append.1 h with hsub | hrest
    · exact .inl hsub
    · exact (ih hrest).imp_right List.mem_of_mem_drop
  | case3 d rest hpat ih =>
    rcases List.mem_cons.1 h with rfl | hrest
    · exact .inr List.mem_cons_self
    · exact (ih hrest).imp_right (List.mem_cons_of_mem d)

theorem replaceAll_ne_nil (hsub : sub ≠ []) (hcs : cs ≠ []) : replaceAll pat sub cs ≠ [] := by
  obtain ⟨c, rest, rfl⟩ := List.exists_cons_of_ne_nil hcs
  rw [replaceAll]
  split_ifs
  · simp [hsub]
  · simp

/-! ## Words foreign to the text put in -/

/-- no occurrence of the word starts in the text put in, and none runs into it from before -/
structure Foreign (p sub : List Char) : Prop where
  ne_nil : p ≠ []
  starts : ∀ c ∈ p.head?, c ∉ sub
  barred : ∃ s ∈ sub.head?, s ∉ p

theorem occurs_of_append (hne : p ≠ []) {a b : List Char} (hstarts : ∀ c ∈ p.head?, c ∉ a) (h : p <:+: a ++ b) :
    p <:+: b := by
  induction a with
  | nil => exact h
  | cons x a ih =>
    obtain ⟨c, p, rfl⟩ := List.exists_cons_of_ne_nil hne
    rcases List.infix_cons_iff.1 h with hhead | htail
    · obtain ⟨rfl, -⟩ := List.cons_prefix_cons.1 hhead
      exact absurd List.mem_cons_self (hstarts c rfl)
    · exact ih (fun d hd hmem => hstarts d hd (List.mem_cons_of_mem x hmem)) htail

/-- a start of the result that stops before the first text put in is a start of the old text -/
theorem prefix_of_prefix_replaceAll {s : Char} (hs : s ∈ sub.head?) (hp : s ∉ p) (h : p <+: replaceAll pat sub cs) :
    p <+: cs := by
  fun_induction replaceAll pat sub cs generalizing p with
  | case1 => exact h
  | case2 c rest hpat ih =>
    cases p with
    | nil => exact List.nil_prefix
    | cons d p =>
      obtain ⟨sub, rfl⟩ := List.head?_eq_some_iff.1 hs
      obtain ⟨rfl, -⟩ := List.cons_prefix_cons.1 h
      exact absurd List.mem_cons_self hp
  | case3 c rest hpat ih =>
    cases p with
    | nil => exact List.nil_prefix
    | cons d p =>
      obtain ⟨rfl, hrest⟩ := List.cons_prefix_cons.1 h
      exact List.cons_prefix_cons.2 ⟨rfl, ih (fun hmem => hp (List.mem_cons_of_mem d hmem)) hrest⟩

/-- an occurrence in the result is one in the old text, at a place that was passed over -/
theorem Foreign.exists_place (h : Foreign p sub) (hpat : pat ≠ []) (hoccurs : p <:+: replaceAll pat sub cs) :
    ∃ rest, rest <:+ cs ∧ p <+: rest ∧ ¬ pat <+: rest := by
  fun_induction replaceAll pat sub cs with
  | case1 => exact absurd (List.infix_nil.1 hoccurs) h.ne_nil
  | case2 c rest _ ih =>
    obtain ⟨place, hplace, hp⟩ := ih (occurs_of_append h.ne_nil h.starts hoccurs)
    exact ⟨place, hplace.trans (List.drop_suffix _ _), hp⟩
  | case3 c rest hpassed ih =>
    rcases List.infix_cons_iff.1 hoccurs with hhere | hlater
    · obtain ⟨s, hs, hbarred⟩ := h.barred
      obtain ⟨d, p, rfl⟩ := List.exists_cons_of_ne_nil h.ne_nil
      obtain ⟨rfl, hrest⟩ := List.cons_prefix_cons.1 hhere
      have hp := prefix_of_prefix_replaceAll hs (fun hmem => hbarred (List.mem_cons_of_mem d hmem)) hrest
      refine ⟨d :: rest, List.suffix_refl _, List.cons_prefix_cons.2 ⟨rfl, hp⟩, fun hstands => ?_⟩
      exact hpassed ⟨hpat, List.isPrefixOf_iff_prefix.2 hstands⟩
    · obtain ⟨place, hplace, hp⟩ := ih hlater
      exact ⟨place, hplace.trans (List.suffix_cons c rest), hp⟩

theorem Foreign.occurs_of_replaceAll (h : Foreign p sub) (hpat : pat ≠ []) (hoccurs : p <:+: replaceAll pat sub cs) :
    p <:+: cs := by
  obtain ⟨rest, hrest, hp, -⟩ := h.exists_place hpat hoccurs
  exact hp.isInfix.trans hrest.isInfix

theorem Foreign.absent_replaceAll (h : Foreign pat sub) (cs : List Char) : ¬ pat <:+: replaceAll pat sub cs := by
  intro hoccurs
  obtain ⟨rest, -, hp, hnot⟩ := h.exists_place h.ne_nil hoccurs
  exact hnot hp

end Benchwork.Text
