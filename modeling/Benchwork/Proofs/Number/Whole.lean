/-
Whole numbers that are written and read.

What is read as a whole number is a run of digits with a plus sign before it or not, and it is read as the number that
the digits stand for (`whole?_eq_some_iff`). The decimal digits of a number are read back as the number
(`whole?_toDigits`, `signedWhole?_toDigits`), and there is neither a blank nor a sign among them.
-/
import Mathlib.Data.Nat.Digits.Defs
import Mathlib.Tactic
import Benchwork.Number.Whole
import Benchwork.Proofs.Text.Padding

namespace Benchwork

/-! ## Digits -/

namespace Number

theorem isDigit_iff {c : Char} : isDigit c = true ↔ 48 ≤ c.toNat ∧ c.toNat ≤ 57 := by
  rw [isDigit, decide_eq_true_eq, Char.le_def, Char.le_def, UInt32.le_iff_toNat_le, UInt32.le_iff_toNat_le]
  exact Iff.rfl

theorem isDigit_of_mem_toDigits {n : Nat} {c : Char} (h : c ∈ Nat.toDigits 10 n) : isDigit c = true := by
  have hc : c.isDigit = true := Nat.isDigit_of_mem_toDigits (by decide) (by decide) h
  simpa [Char.isDigit, isDigit, Char.le_def] using hc

theorem not_mem_toDigits {c : Char} (h : isDigit c = false) (n : Nat) : c ∉ Nat.toDigits 10 n := fun hc => by
  rw [isDigit_of_mem_toDigits hc] at h
  cases h

theorem not_isBlank_of_isDigit {c : Char} (h : isDigit c = true) : Text.isBlank c = false := by
  obtain ⟨hlow, hhigh⟩ := isDigit_iff.1 h
  simp only [Text.isBlank, Bool.or_eq_false_iff, Bool.and_eq_false_iff, decide_eq_false_iff_not, beq_eq_false_iff_ne]
  omega

theorem digitsValue_toDigits (n : Nat) : digitsValue (Nat.toDigits 10 n) = n := by
  have hsame : digitsValue (Nat.toDigits 10 n) = Nat.ofDigitChars 10 (Nat.toDigits 10 n) 0 := by
    unfold digitsValue Nat.ofDigitChars
    congr 1
    funext m d
    rw [Nat.mul_comm]
    rfl
  rw [hsame, Nat.ofDigitChars_ten_toDigits]

/-! ## Runs of digits -/

structure IsDigits (ds : List Char) : Prop where
  ne_nil : ds ≠ []
  digits : ∀ c ∈ ds, isDigit c = true

/-- the number that digits stand for: the last one counts ones, the one before it tens, and so on -/
def decimalValue (ds : List Char) : Nat := Nat.ofDigits 10 (ds.reverse.map fun d => d.toNat - 48)

theorem digitsValue_eq_decimalValue (ds : List Char) : digitsValue ds = decimalValue ds := by
  induction ds using List.reverseRecOn with
  | nil => rfl
  | append_singleton ds d ih =>
    rw [digitsValue, List.foldl_append, List.foldl_cons, List.foldl_nil, ← digitsValue, ih, decimalValue, decimalValue,
      List.reverse_append, List.reverse_singleton, List.singleton_append, List.map_cons, Nat.ofDigits_cons]
    ring

theorem decimalValue_toDigits (n : Nat) : decimalValue (Nat.toDigits 10 n) = n := by
  rw [← digitsValue_eq_decimalValue, digitsValue_toDigits]

theorem isDigits_toDigits (n : Nat) : IsDigits (Nat.toDigits 10 n) :=
  ⟨Nat.toDigits_ne_nil, fun _ hc => isDigit_of_mem_toDigits hc⟩

theorem digits?_eq_some_iff {cs : List Char} {n : Nat} :
    digits? cs = some n ↔ IsDigits cs ∧ decimalValue cs = n := by
  rw [digits?, digitsValue_eq_decimalValue]
  constructor
  · intro h
    split_ifs at h with hdigits
    exact ⟨⟨hdigits.1, List.all_eq_true.1 hdigits.2⟩, Option.some.inj h⟩
  · rintro ⟨hdigits, rfl⟩
    rw [if_pos ⟨hdigits.ne_nil, List.all_eq_true.2 hdigits.digits⟩]

/-- digits with a plus sign before them or not -/
theorem whole?_eq_some_iff {cs : List Char} {n : Nat} :
    whole? cs = some n ↔
      ∃ sign ds, cs = sign ++ ds ∧ (sign = [] ∨ sign = ['+']) ∧ IsDigits ds ∧ decimalValue ds = n := by
  constructor
  · intro h
    unfold whole? at h
    split at h
    · rename_i ds
      exact ⟨['+'], ds, rfl, .inr rfl, digits?_eq_some_iff.1 h⟩
    · exact ⟨[], cs, rfl, .inl rfl, digits?_eq_some_iff.1 h⟩
  · rintro ⟨sign, ds, rfl, rfl | rfl, hds, hvalue⟩
    · -- digits do not start with a plus sign
      rw [List.nil_append]
      unfold whole?
      split
      · rename_i ds
        exact absurd (hds.digits '+' List.mem_cons_self) (by decide)
      · exact digits?_eq_some_iff.2 ⟨hds, hvalue⟩
    · exact digits?_eq_some_iff.2 ⟨hds, hvalue⟩

theorem whole?_toDigits (n : Nat) : whole? (Nat.toDigits 10 n) = some n :=
  whole?_eq_some_iff.2 ⟨[], _, rfl, .inl rfl, isDigits_toDigits n, decimalValue_toDigits n⟩

theorem signedWhole?_toDigits (n : Nat) : signedWhole? (Nat.toDigits 10 n) = some (n : Int) := by
  unfold signedWhole?
  split
  · rename_i rest h
    exact absurd (h ▸ List.mem_cons_self) (not_mem_toDigits (c := '-') rfl n)
  · rw [whole?_toDigits]
    rfl

end Number

end Benchwork
