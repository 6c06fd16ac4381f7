/-
Numbers rounded to decimal places.

A number with a fixed count of places shows the whole number of units nearest to its magnitude, a half going to the even
neighbour (`IsRounded`, `exists_units`). It shows zeros in all its places exactly if a whole number is within half a unit
of it (`IsRounded.pow_dvd_iff`).

`IsNumeral` are the usual texts of numbers. Without places a finite number is one (`isNumeral_fixed_zero`). With places it
is one when the zeros at its end are dropped (`isNumeral_trimmed`), unless all its places are zeros: then a point is left
behind the number without places (`trimmed_eq_append_point`).
-/
import Mathlib.Tactic
import Benchwork.Proofs.Number.Arithmetic
import Benchwork.Proofs.Number.Digits

namespace Benchwork.Number

open Benchwork.Text

/-! ## Rounding -/

/-- `u` is nearest to `r`, and a half goes to the even neighbour -/
structure IsRounded (r : ℚ) (u : Nat) : Prop where
  near : |r - u| ≤ 1 / 2
  even : ∀ w : Nat, Even w → |r - w| ≤ 1 / 2 → u = w

/-- what is nearer than a half is the rounded number -/
theorem IsRounded.eq_of_lt {r : ℚ} {u w : Nat} (h : IsRounded r u) (hw : |r - w| < 1 / 2) : u = w := by
  have hdistance : |(u : ℚ) - w| < 1 := by
    calc |(u : ℚ) - w| = |(r - w) - (r - u)| := by congr 1; ring
      _ ≤ |r - w| + |r - u| := abs_sub _ _
      _ < 1 := by linarith [h.near]
  have hint : |(u : Int) - w| < 1 := by exact_mod_cast hdistance
  have hsame := Int.abs_lt_one_iff.1 hint
  omega

section Quotients

variable {num den : Nat} (h : 0 < den)

include h

theorem abs_div_sub_le_half_iff (w : Nat) :
    |(num : ℚ) / den - w| ≤ 1 / 2 ↔ 2 * (w * den) ≤ 2 * num + den ∧ 2 * num ≤ 2 * (w * den) + den := by
  have hden : (0 : ℚ) < den := by exact_mod_cast h
  have hquotient : (num : ℚ) / den - w = (num - w * den) / den := by field_simp
  rw [hquotient, abs_le, le_div_iff₀ hden, div_le_iff₀ hden]
  constructor
  · rintro ⟨hlow, hhigh⟩
    have hlow' : (2 : ℚ) * (w * den) ≤ 2 * num + den := by linarith
    have hhigh' : (2 : ℚ) * num ≤ 2 * (w * den) + den := by linarith
    exact ⟨by exact_mod_cast hlow', by exact_mod_cast hhigh'⟩
  · rintro ⟨hlow, hhigh⟩
    have hlow' : (2 : ℚ) * (w * den) ≤ 2 * num + den := by exact_mod_cast hlow
    have hhigh' : (2 : ℚ) * num ≤ 2 * (w * den) + den := by exact_mod_cast hhigh
    constructor <;> linarith

theorem roundDiv_near :
    2 * (roundDiv num den * den) ≤ 2 * num + den ∧ 2 * num ≤ 2 * (roundDiv num den * den) + den := by
  have hsplit : num / den * den + num % den = num := Nat.div_add_mod' num den
  have hrest : num % den < den := Nat.mod_lt num h
  have hnext : (num / den + 1) * den = num / den * den + den := Nat.succ_mul _ _
  rw [roundDiv]
  by_cases hup : 2 * (num % den) > den ∨ (2 * (num % den) = den ∧ num / den % 2 = 1)
  · rw [if_pos hup, hnext]
    omega
  · rw [if_neg hup]
    omega

theorem roundDiv_eq_of_even {w : Nat} (hw : Even w) (hlow : 2 * (w * den) ≤ 2 * num + den)
    (hhigh : 2 * num ≤ 2 * (w * den) + den) : roundDiv num den = w := by
  have hsplit : num / den * den + num % den = num := Nat.div_add_mod' num den
  have hrest : num % den < den := Nat.mod_lt num h
  have hnext : (num / den + 1) * den = num / den * den + den := Nat.succ_mul _ _
  have heven : w % 2 = 0 := Nat.even_iff.1 hw
  -- an even number as near as a half is the quotient or the one after it
  have hcases : w = num / den ∨ w = num / den + 1 := by
    have hle : w < num / den + 2 := by
      by_contra hge
      have hlarge : (num / den + 2) * den ≤ w * den := Nat.mul_le_mul_right den (by omega)
      rw [add_mul] at hlarge
      omega
    have hge : num / den ≤ w := by
      by_contra hlt
      have hsmall : (w + 1) * den ≤ num / den * den := Nat.mul_le_mul_right den (by omega)
      rw [add_mul] at hsmall
      omega
    omega
  rw [roundDiv]
  rcases hcases with rfl | rfl
  · rw [if_neg (by omega)]
  · rw [hnext] at hlow
    rw [if_pos (by omega)]

theorem isRounded_roundDiv : IsRounded (num / den) (roundDiv num den) where
  near := (abs_div_sub_le_half_iff h _).2 (roundDiv_near h)
  even w hw hnear := by
    obtain ⟨hlow, hhigh⟩ := (abs_div_sub_le_half_iff h w).1 hnear
    exact roundDiv_eq_of_even h hw hlow hhigh

end Quotients

/-! ## Places -/

def signText (negative : Bool) : List Char := if negative then ['-'] else []

/-- the units that a number with a fixed count of places shows -/
theorem exists_units {x : Float} {q : ℚ} (h : value? x = some q) (places : Nat) :
    ∃ u, IsRounded (10 ^ places * |q|) u ∧
      (fixed places x).toList = signText (isNegative x) ++ positional ⟨u, -(places : Int)⟩ := by
  obtain ⟨b, hb, hnegative, hvalue, -⟩ := exists_parts h
  have hden : 0 < b.ratio.2 := Nat.pow_pos (by norm_num)
  have hscaled : ((b.ratio.1 * tenTo places : Nat) : ℚ) / b.ratio.2 = 10 ^ places * |q| := by
    have hten : ((tenTo places : Nat) : ℚ) = 10 ^ places := by exact_mod_cast Nat.cast_pow 10 places
    rw [hvalue, ← b.ratio_eq, Nat.cast_mul, hten]
    ring
  refine ⟨roundDiv (b.ratio.1 * tenTo places) b.ratio.2, ?_, ?_⟩
  · rw [← hscaled]
    exact isRounded_roundDiv hden
  · rw [fixed, signed, hb, String.toList_ofList, hnegative]
    rfl

section Zeros

variable {q : ℚ} {places u : Nat}

theorem abs_scaled_sub_le_half_iff (k : Nat) :
    |10 ^ places * |q| - ((10 ^ places * k : Nat) : ℚ)| ≤ 1 / 2 ↔ |(|q|) - k| ≤ 1 / (2 * 10 ^ places) := by
  have hpow : (0 : ℚ) < 10 ^ places := by positivity
  have hfactor : 10 ^ places * |q| - ((10 ^ places * k : Nat) : ℚ) = 10 ^ places * (|q| - k) := by
    push_cast
    ring
  rw [hfactor, abs_mul, abs_of_pos hpow, ← le_div_iff₀' hpow, div_div]

/-- all the places are zeros exactly if a whole number is within half a unit -/
theorem IsRounded.pow_dvd_iff (hplaces : 0 < places) (h : IsRounded (10 ^ places * |q|) u) :
    10 ^ places ∣ u ↔ ∃ n : Int, |q - n| ≤ 1 / (2 * 10 ^ places) := by
  constructor
  · rintro ⟨k, rfl⟩
    have hnear := (abs_scaled_sub_le_half_iff k).1 h.near
    rcases le_total 0 q with hq | hq
    · refine ⟨k, ?_⟩
      rwa [abs_of_nonneg hq] at hnear
    · refine ⟨-k, ?_⟩
      rwa [abs_of_nonpos hq, ← abs_neg, neg_sub, sub_neg_eq_add, add_comm, ← sub_neg_eq_add] at hnear
  · rintro ⟨n, hn⟩
    have hnear : |(|q|) - n.natAbs| ≤ 1 / (2 * 10 ^ places) := by
      rw [Nat.cast_natAbs, Int.cast_abs]
      exact (abs_abs_sub_abs_le q n).trans hn
    have heven : Even (10 ^ places * n.natAbs) := ((by decide : Even 10).pow_of_ne_zero hplaces.ne').mul_right _
    exact ⟨n.natAbs, h.even _ heven ((abs_scaled_sub_le_half_iff _).2 hnear)⟩

/-- zeros in all the places stand behind the number rounded to ones -/
theorem IsRounded.eq_of_pow_dvd (hplaces : 0 < places) (h : IsRounded (10 ^ places * |q|) u) (hdvd : 10 ^ places ∣ u)
    {w : Nat} (hw : IsRounded |q| w) : u / 10 ^ places = w := by
  obtain ⟨k, rfl⟩ := hdvd
  have hnear := (abs_scaled_sub_le_half_iff k).1 h.near
  have hten : (10 : ℚ) ≤ 10 ^ places := le_self_pow₀ (by norm_num) hplaces.ne'
  have hsmall : (1 : ℚ) / (2 * 10 ^ places) < 1 / 2 := by
    apply one_div_lt_one_div_of_lt <;> linarith
  rw [Nat.mul_div_cancel_left k (by positivity)]
  exact (hw.eq_of_lt (hnear.trans_lt hsmall)).symm

end Zeros

/-! ## Numerals -/

/-- a minus sign or none, digits, and then nothing or a point and digits of which the last is not a zero -/
def IsNumeral (cs : List Char) : Prop :=
  ∃ sign whole fraction, cs = sign ++ (whole ++ fraction) ∧ (sign = [] ∨ sign = ['-']) ∧ IsDigits whole ∧
    (fraction = [] ∨ ∃ ds, fraction = '.' :: ds ∧ IsDigits ds ∧ ds.getLast? ≠ some '0')

theorem signText_cases (negative : Bool) : signText negative = [] ∨ signText negative = ['-'] := by
  cases negative with
  | false => exact .inl rfl
  | true => exact .inr rfl

/-- digits end in a digit -/
theorem IsDigits.getLast?_ne_point {ds : List Char} (h : IsDigits ds) : ds.getLast? ≠ some '.' := fun hlast =>
  absurd (h.digits '.' (List.mem_of_mem_getLast? hlast)) (by decide)

theorem IsNumeral.getLast?_ne_point {cs : List Char} (h : IsNumeral cs) : cs.getLast? ≠ some '.' := by
  obtain ⟨sign, whole, fraction, rfl, -, hwhole, hfraction⟩ := h
  rcases hfraction with rfl | ⟨ds, rfl, hds, -⟩
  · rw [List.append_nil, List.getLast?_append_of_ne_nil _ hwhole.ne_nil]
    exact hwhole.getLast?_ne_point
  · rw [List.append_cons, ← List.append_assoc, List.getLast?_append_of_ne_nil _ hds.ne_nil]
    exact hds.getLast?_ne_point

section Texts

variable {x : Float} {q : ℚ} (h : value? x = some q)

include h

/-- a number without places is a numeral -/
theorem isNumeral_fixed_zero : IsNumeral (fixed 0 x).toList := by
  obtain ⟨u, -, htext⟩ := exists_units h 0
  refine ⟨signText (isNegative x), Nat.toDigits 10 u, [], ?_, signText_cases _, isDigits_toDigits u, .inl rfl⟩
  rw [htext, positional_whole u (by norm_num)]
  rfl

/-- with the zeros at its end dropped a number with places is a numeral, unless a whole number is within half a unit -/
theorem isNumeral_trimmed {places : Nat} (hplaces : 0 < places) (hq : ∀ n : Int, 1 / (2 * 10 ^ places) < |q - n|) :
    IsNumeral (dropEndWhile (· = '0') (fixed places x).toList) := by
  obtain ⟨u, hu, htext⟩ := exists_units h places
  have hdvd : ¬ 10 ^ places ∣ u := by
    rw [hu.pow_dvd_iff hplaces]
    rintro ⟨n, hn⟩
    exact (hq n).not_ge hn
  rw [htext, positional_places u hplaces, ← List.append_assoc, dropEndWhile_append_cons (by decide), List.append_assoc]
  refine ⟨signText (isNegative x), _, _, rfl, signText_cases _, isDigits_toDigits _, .inr ⟨_, rfl, ⟨?_, ?_⟩, ?_⟩⟩
  · intro hnil
    have hzeros : ∀ c ∈ lastDigits places u, c = '0' := by simpa using List.rdropWhile_eq_nil_iff.1 hnil
    exact hdvd (Nat.dvd_of_mod_eq_zero (lastDigits_eq_zeros.1 hzeros))
  · intro c hc
    exact isDigit_of_mem_lastDigits ((List.rdropWhile_prefix _ _).subset hc)
  · intro hlast
    exact absurd (not_of_mem_getLast?_dropEndWhile hlast) (by decide)

/-- if a whole number is within half a unit, a point is left behind it -/
theorem trimmed_eq_append_point {places : Nat} (hplaces : 0 < places) {n : Int} (hn : |q - n| ≤ 1 / (2 * 10 ^ places)) :
    dropEndWhile (· = '0') (fixed places x).toList = (fixed 0 x).toList ++ ['.'] := by
  obtain ⟨u, hu, htext⟩ := exists_units h places
  obtain ⟨w, hw, htext'⟩ := exists_units h 0
  have hdvd : 10 ^ places ∣ u := (hu.pow_dvd_iff hplaces).2 ⟨n, hn⟩
  rw [pow_zero, one_mul] at hw
  have hzeros : dropEndWhile (· = '0') (lastDigits places u) = [] := by
    refine List.rdropWhile_eq_nil_iff.2 fun c hc => ?_
    simpa using lastDigits_eq_zeros.2 (Nat.mod_eq_zero_of_dvd hdvd) c hc
  rw [htext, htext', positional_places u hplaces, ← List.append_assoc, dropEndWhile_append_cons (by decide), hzeros,
    hu.eq_of_pow_dvd hplaces hdvd hw, positional_whole w (by norm_num)]
  simp

end Texts

end Benchwork.Number
