/-
Lists of keys and values in ascending order of the keys.

`put` replaces the value of a key that is there and otherwise puts the pair before the first greater key, so a list in
strictly ascending order stays in it (`Sorted.put`) and has every key once. Entries of a directory, the fields of a JSON
object and the scores of a result set are kept like this.
-/

namespace Benchwork.Ordered

variable {κ α : Type}

def keys (l : List (κ × α)) : List κ := l.map (·.1)

/-- the keys are in strictly ascending order -/
def Sorted [LT κ] (l : List (κ × α)) : Prop := l.Pairwise fun a b => a.1 < b.1

instance [LT κ] [DecidableLT κ] (l : List (κ × α)) : Decidable (Sorted l) := inferInstanceAs (Decidable (l.Pairwise _))

theorem mem_of_lookup [BEq κ] [LawfulBEq κ] {k : κ} {x : α} {l : List (κ × α)} (h : l.lookup k = some x) : (k, x) ∈ l := by
  obtain ⟨before, after, rfl, -⟩ := List.lookup_eq_some_iff.1 h
  exact List.mem_append_right before List.mem_cons_self

variable [DecidableEq κ]

/-- the list without a key -/
def erase (k : κ) (l : List (κ × α)) : List (κ × α) := l.filter (·.1 ≠ k)

variable [LT κ] [DecidableLT κ]

/-- the list with the value `x` for the key `k` -/
def put (k : κ) (x : α) : List (κ × α) → List (κ × α)
  | [] => [(k, x)]
  | (m, y) :: rest =>
    if m = k then (k, x) :: rest
    else if k < m then (k, x) :: (m, y) :: rest
    else (m, y) :: put k x rest

theorem mem_put {k : κ} {x : α} {l : List (κ × α)} {e : κ × α} (h : e ∈ put k x l) : e = (k, x) ∨ e ∈ l := by
  induction l with
  | nil => exact .inl (List.mem_singleton.1 h)
  | cons d l ih =>
    rw [put] at h
    by_cases h₁ : d.1 = k
    · rw [if_pos h₁] at h
      exact (List.mem_cons.1 h).imp_right (List.mem_cons_of_mem d)
    · by_cases h₂ : k < d.1
      · rw [if_neg h₁, if_pos h₂] at h
        exact List.mem_cons.1 h
      · rw [if_neg h₁, if_neg h₂] at h
        rcases List.mem_cons.1 h with rfl | h
        · exact .inr List.mem_cons_self
        · exact (ih h).imp_right (List.mem_cons_of_mem d)

theorem Sorted.put [LE κ] [Std.IsLinearOrder κ] [Std.LawfulOrderLT κ] {l : List (κ × α)} (h : Sorted l) (k : κ) (x : α) :
    Sorted (put k x l) := by
  induction l with
  | nil => exact List.pairwise_singleton _ _
  | cons e l ih =>
    obtain ⟨hhead, htail⟩ := List.pairwise_cons.1 h
    rw [Ordered.put]
    by_cases h₁ : e.1 = k
    · rw [if_pos h₁]
      exact List.pairwise_cons.2 ⟨fun e' he' => h₁ ▸ hhead e' he', htail⟩
    · by_cases h₂ : k < e.1
      · rw [if_neg h₁, if_pos h₂]
        refine List.pairwise_cons.2 ⟨fun e' he' => ?_, h⟩
        rcases List.mem_cons.1 he' with rfl | he'
        · exact h₂
        · exact Std.lt_trans h₂ (hhead e' he')
      · rw [if_neg h₁, if_neg h₂]
        refine List.pairwise_cons.2 ⟨fun e' he' => ?_, ih htail⟩
        rcases mem_put he' with rfl | he'
        · exact Std.lt_of_le_of_ne (Std.not_lt.1 h₂) h₁
        · exact hhead e' he'

end Benchwork.Ordered
