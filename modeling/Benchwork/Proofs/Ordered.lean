/-
Lists of keys and values: what is found in them, and lists in ascending order.

What is found after `put`, `erase` and `replace` is one equation each. A list in ascending order of its keys is told by the
values of the keys (`Sorted.ext`), so two lists are equal when the same is found in both. What is found in a list in
ascending order is what is in it (`Sorted.lookup_eq_some`), and whatever is taken out of it by a test is found no more
(`Sorted.lookup_filter`).
-/
import Mathlib.Tactic
import Benchwork.Ordered

namespace Benchwork.Ordered

/-! ## Finding -/

section Lookup

variable {κ α β : Type} [BEq κ] [LawfulBEq κ]

theorem lookup_cons_eq [DecidableEq κ] (k m : κ) (x : α) (l : List (κ × α)) :
    ((m, x) :: l).lookup k = if m = k then some x else l.lookup k := by
  rw [List.lookup_cons]
  by_cases h : m = k
  · rw [if_pos h, h, beq_self_eq_true]
  · rw [if_neg h, beq_eq_false_iff_ne.2 (Ne.symm h)]

theorem mem_keys {k : κ} {l : List (κ × α)} : k ∈ keys l ↔ l.lookup k ≠ none := by
  rw [Option.ne_none_iff_isSome, List.lookup_isSome_iff, keys, List.mem_map]
  exact exists_congr fun e => and_congr_right fun _ => eq_comm.trans beq_iff_eq.symm

theorem lookup_map (f : κ → α → β) (k : κ) (l : List (κ × α)) :
    (l.map fun e => (e.1, f e.1 e.2)).lookup k = (l.lookup k).map (f k) := by
  classical
  induction l with
  | nil => rfl
  | cons e l ih =>
    rw [List.map_cons, lookup_cons_eq, lookup_cons_eq, ih]
    split_ifs with he
    · rw [he]
      rfl
    · rfl

variable [DecidableEq κ]

theorem lookup_erase (k m : κ) (l : List (κ × α)) : (erase k l).lookup m = if m = k then none else l.lookup m := by
  induction l with
  | nil => simp [erase]
  | cons e l ih =>
    rw [erase] at ih ⊢
    by_cases hk : e.1 = k
    · rw [List.filter_cons_of_neg (by simpa using hk), ih]
      split_ifs with hm
      · rfl
      · rw [lookup_cons_eq, if_neg (fun h => hm (h.symm.trans hk))]
    · rw [List.filter_cons_of_pos (by simpa using hk), lookup_cons_eq, ih, lookup_cons_eq]
      split_ifs with he hm
      · exact absurd (he.trans hm) hk
      · rfl
      · rfl
      · rfl

variable [LT κ] [DecidableLT κ]

/-- gives a key a value, or takes it away -/
def replace (k : κ) : Option α → List (κ × α) → List (κ × α)
  | some x => put k x
  | none => erase k

@[simp]
theorem lookup_put_self (k : κ) (x : α) (l : List (κ × α)) : (put k x l).lookup k = some x := by
  induction l with
  | nil => simp [put]
  | cons e l ih =>
    simp only [put]
    split_ifs with h1 h2
    · simp
    · simp
    · rw [lookup_cons_eq, if_neg h1, ih]

theorem lookup_put_of_ne {k m : κ} (h : m ≠ k) (x : α) (l : List (κ × α)) : (put k x l).lookup m = l.lookup m := by
  induction l with
  | nil => simp [put, lookup_cons_eq, h.symm]
  | cons e l ih =>
    simp only [put]
    split_ifs with h1 h2
    · rw [lookup_cons_eq, if_neg h.symm, lookup_cons_eq, if_neg (h1 ▸ h.symm)]
    · rw [lookup_cons_eq, if_neg h.symm]
    · rw [lookup_cons_eq, lookup_cons_eq, ih]

theorem lookup_put (k m : κ) (x : α) (l : List (κ × α)) :
    (put k x l).lookup m = if m = k then some x else l.lookup m := by
  split_ifs with h
  · rw [h]
    exact lookup_put_self k x l
  · exact lookup_put_of_ne h x l

theorem lookup_replace (k m : κ) (c : Option α) (l : List (κ × α)) :
    (replace k c l).lookup m = if m = k then c else l.lookup m := by
  cases c with
  | none => exact lookup_erase k m l
  | some x => exact lookup_put k m x l

omit [BEq κ] [LawfulBEq κ] in
theorem put_ne_nil (k : κ) (x : α) (l : List (κ × α)) : put k x l ≠ [] := by
  cases l with
  | nil => exact List.cons_ne_nil _ _
  | cons e l =>
    rw [put]
    split_ifs with h₁ h₂
    · exact List.cons_ne_nil _ _
    · exact List.cons_ne_nil _ _
    · exact List.cons_ne_nil _ _

omit [BEq κ] [LawfulBEq κ] in
theorem put_put (k : κ) (x y : α) (l : List (κ × α)) : put k y (put k x l) = put k y l := by
  induction l with
  | nil => simp [put]
  | cons e l ih =>
    simp only [put]
    split_ifs with h₁ h₂
    · simp [put]
    · simp [put]
    · simp [put, h₁, h₂, ih]

end Lookup

/-! ## Ascending order -/

section Sorted

variable {κ α β : Type} [LT κ] {l l' : List (κ × α)}

theorem Sorted.filter (h : Sorted l) (p : κ × α → Bool) : Sorted (l.filter p) :=
  List.Pairwise.filter p h

theorem Sorted.map (h : Sorted l) (f : κ → α → β) : Sorted (l.map fun e => (e.1, f e.1 e.2)) :=
  List.pairwise_map.2 h

variable [LE κ] [Std.LawfulOrderLT κ]

theorem Sorted.nodup (h : Sorted l) : l.Nodup :=
  h.imp fun {_ _} hlt heq => Std.ne_of_lt hlt (congrArg Prod.fst heq)

theorem Sorted.nodup_keys (h : Sorted l) : (keys l).Nodup :=
  List.pairwise_map.2 (h.imp fun {_ _} hlt => Std.ne_of_lt hlt)

section Values

variable [BEq κ] [LawfulBEq κ]

theorem Sorted.lookup_eq_some (h : Sorted l) {k : κ} {x : α} : l.lookup k = some x ↔ (k, x) ∈ l := by
  classical
  refine ⟨mem_of_lookup, fun hmem => ?_⟩
  induction l with
  | nil => simp at hmem
  | cons e l ih =>
    obtain ⟨hhead, htail⟩ := List.pairwise_cons.1 h
    rcases List.mem_cons.1 hmem with rfl | hmem
    · exact List.lookup_cons_self
    · rw [lookup_cons_eq, if_neg (Std.ne_of_lt (hhead (k, x) hmem))]
      exact ih htail hmem

theorem Sorted.lookup_filter (h : Sorted l) (p : κ × α → Bool) (k : κ) :
    (l.filter p).lookup k = (l.lookup k).filter fun x => p (k, x) := by
  refine Option.ext fun x => ?_
  rw [(h.filter p).lookup_eq_some, List.mem_filter, Option.filter_eq_some_iff, h.lookup_eq_some]

variable [Std.IsLinearOrder κ]

/-- a list in ascending order is told by its values -/
theorem Sorted.ext (h : Sorted l) (h' : Sorted l') (hget : ∀ k, l.lookup k = l'.lookup k) : l = l' := by
  have hmem : ∀ e, e ∈ l ↔ e ∈ l' := fun e => by rw [← h.lookup_eq_some, ← h'.lookup_eq_some, hget]
  have hperm : l.Perm l' := (List.perm_ext_iff_of_nodup h.nodup h'.nodup).2 hmem
  exact hperm.eq_of_pairwise (fun a b _ _ hab hba => absurd (Std.lt_trans hab hba) Std.lt_irrefl) h h'

end Values

section Replace

variable [DecidableEq κ] [DecidableLT κ] [Std.IsLinearOrder κ]

theorem Sorted.replace (h : Sorted l) (k : κ) (c : Option α) : Sorted (replace k c l) := by
  cases c with
  | none => exact h.filter _
  | some x => exact h.put k x

/-- the values of two keys can be changed in either order -/
theorem replace_comm (h : Sorted l) {k m : κ} (hkm : k ≠ m) (c d : Option α) :
    replace m d (replace k c l) = replace k c (replace m d l) := by
  refine ((h.replace k c).replace m d).ext ((h.replace m d).replace k c) fun j => ?_
  simp only [lookup_replace]
  split_ifs with hm hk
  · exact absurd (hk.symm.trans hm) hkm
  · rfl
  · rfl
  · rfl

end Replace

end Sorted

end Benchwork.Ordered
