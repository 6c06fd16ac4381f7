/-
Digits around the decimal point.

Digits with zeros at their end are the digits of a multiple of a power of ten (`toDigits_mul_pow`). Cut into ones and
decimal places, a number has the digits of its quotient before the point and behind it as many digits of the remainder as
there are places (`positional_places`); they are all zeros exactly if there is no remainder (`lastDigits_eq_zeros`).
-/
import Mathlib.Tactic
import Benchwork.Number.Fixed
import Benchwork.Proofs.Number.Whole

namespace Benchwork.Number

/-! ## Digits -/

theorem toDigits_snoc {n : Nat} (h : 10 ≤ n) :
    Nat.toDigits 10 n = Nat.toDigits 10 (n / 10) ++ [(n % 10).digitChar] :=
  Nat.toDigits_of_base_le (by norm_num) h

theorem toDigits_digit {n : Nat} (h : n < 10) : Nat.toDigits 10 n = [n.digitChar] := Nat.toDigits_of_lt_base h

theorem toDigits_mul_pow {n : Nat} (h : 0 < n) (k : Nat) :
    Nat.toDigits 10 (n * 10 ^ k) = Nat.toDigits 10 n ++ List.replicate k '0' := by
  induction k with
  | zero => simp
  | succ k ih =>
    have hpos : 0 < n * 10 ^ k := by positivity
    have hten : n * 10 ^ (k + 1) = n * 10 ^ k * 10 := by ring
    have hzero : Nat.digitChar 0 = '0' := rfl
    rw [hten, toDigits_snoc (by omega), Nat.mul_div_cancel _ (by norm_num), Nat.mul_mod_left, ih, hzero, List.append_assoc,
      ← List.replicate_succ']

/-- the last digits of a number, with zeros in front if it has fewer -/
def lastDigits : Nat → Nat → List Char
  | 0, _ => []
  | places + 1, n => lastDigits places (n / 10) ++ [(n % 10).digitChar]

theorem length_lastDigits (places n : Nat) : (lastDigits places n).length = places := by
  induction places generalizing n with
  | zero => rfl
  | succ places ih => rw [lastDigits, List.length_append, ih, List.length_singleton]

theorem isDigit_digitChar {n : Nat} (h : n < 10) : isDigit n.digitChar = true := by
  have hmem : n.digitChar ∈ Nat.toDigits 10 n := by simp [toDigits_digit h]
  exact isDigit_of_mem_toDigits hmem

theorem isDigit_of_mem_lastDigits {places n : Nat} {c : Char} (h : c ∈ lastDigits places n) : isDigit c = true := by
  induction places generalizing n with
  | zero => cases h
  | succ places ih =>
    rcases List.mem_append.1 h with h | h
    · exact ih h
    · rw [List.mem_singleton.1 h]
      exact isDigit_digitChar (Nat.mod_lt n (by norm_num))

theorem digitChar_eq_zero_iff {n : Nat} (h : n < 10) : n.digitChar = '0' ↔ n = 0 := by
  interval_cases n <;> decide

/-- the last digits are zeros exactly if nothing remains -/
theorem lastDigits_eq_zeros {places n : Nat} : (∀ c ∈ lastDigits places n, c = '0') ↔ n % 10 ^ places = 0 := by
  induction places generalizing n with
  | zero => simp [lastDigits, Nat.mod_one]
  | succ places ih =>
    have hsplit : n % 10 ^ (places + 1) = n % 10 + 10 * (n / 10 % 10 ^ places) := by
      rw [pow_succ', Nat.mod_mul]
    rw [lastDigits, List.forall_mem_append, ih, List.forall_mem_singleton,
      digitChar_eq_zero_iff (Nat.mod_lt n (by norm_num)), hsplit]
    omega

/-- digits with zeros in front, so that there is one more than the places: the quotient and then the remainder -/
theorem padded_eq (places n : Nat) :
    List.replicate (places + 1 - (Nat.toDigits 10 n).length) '0' ++ Nat.toDigits 10 n =
      Nat.toDigits 10 (n / 10 ^ places) ++ lastDigits places n := by
  induction places generalizing n with
  | zero =>
    have hlength : 1 - (Nat.toDigits 10 n).length = 0 := Nat.sub_eq_zero_of_le Nat.length_toDigits_pos
    simp [lastDigits, hlength]
  | succ places ih =>
    have hquotient : n / 10 ^ (places + 1) = n / 10 / 10 ^ places := by rw [pow_succ', Nat.div_div_eq_div_mul]
    rw [lastDigits, hquotient, ← List.append_assoc, ← ih]
    rcases Nat.lt_or_ge n 10 with hlt | hge
    · -- a single digit: the quotient is zero, and the zeros in front are one fewer
      have hzero : n / 10 = 0 := Nat.div_eq_of_lt hlt
      rw [hzero, Nat.mod_eq_of_lt hlt, toDigits_digit hlt, toDigits_digit (by norm_num)]
      simp [List.replicate_succ', Nat.digitChar]
    · rw [toDigits_snoc hge, List.length_append, List.length_singleton, Nat.add_sub_add_right, List.append_assoc]

/-! ## Texts with a point -/

theorem positional_whole (n : Nat) {k : Int} (hk : 0 ≤ k) :
    positional ⟨n, k⟩ = Nat.toDigits 10 n ++ List.replicate k.toNat '0' := by
  rw [positional]
  exact if_pos hk

theorem positional_places (n : Nat) {places : Nat} (h : 0 < places) :
    positional ⟨n, -(places : Int)⟩ = Nat.toDigits 10 (n / 10 ^ places) ++ '.' :: lastDigits places n := by
  have hneg : ¬ (0 : Int) ≤ -(places : Int) := by omega
  have hplaces : (- -(places : Int)).toNat = places := by omega
  have hcut : (Nat.toDigits 10 (n / 10 ^ places) ++ lastDigits places n).length - places =
      (Nat.toDigits 10 (n / 10 ^ places)).length := by
    rw [List.length_append, length_lastDigits, Nat.add_sub_cancel]
  rw [positional]
  dsimp only
  rw [if_neg hneg, hplaces, padded_eq, hcut, List.take_left, List.drop_left]

end Benchwork.Number
