/-
The labels of ticks.

A tick that is whole, or has a fraction of less than a billionth, is labelled with the whole number, and any other tick
with up to three decimals. The label is a numeral unless the three decimals are zeros: then a point stands behind the
number (`isNumeral_tickLabel_iff`, `tickLabel_eq_append_point`). That happens to ticks that are within half a thousandth of
a whole number and have a fraction all the same, such as `0.0002` (`tickLabel_ends_in_point`).

All the ticks of an axis that ends are finite: from an infinite one on there is no end (`ticksFrom_of_infinite`).
-/
import Mathlib.Tactic
import Benchwork.Page.Drawing
import Benchwork.Proofs.Number.Fraction
import Benchwork.Proofs.Number.Places

namespace Benchwork.Page

open Benchwork.Number Benchwork.Text

open Float.Model (UnpackedFloat)

/-! ## Labels -/

/-- with a fraction of less than a billionth, or more than half a thousandth away from every whole number -/
def Clear (q : ℚ) : Prop := Int.fract |q| < 1 / 10 ^ 9 ∨ ∀ n : Int, 1 / 2000 < |q - n|

section Labels

variable {v : Float} {q : ℚ} (h : value? v = some q)

include h

theorem tickLabel_eq : tickLabel v =
    if Int.fract |q| < 1 / 10 ^ 9 then fixed 0 v
    else String.ofList (dropEndWhile (· = '0') (fixed 3 v).toList) := by
  rw [tickLabel]
  simp only [lt_billionth_iff (value?_abs_sub_truncate h) (Int.fract_nonneg _)]

/-- a tick that is near a whole number but not as good as whole has a point at the end of its label -/
theorem tickLabel_eq_append_point (hq : ¬ Clear q) : tickLabel v = fixed 0 v ++ "." := by
  rw [Clear, not_or, not_forall] at hq
  obtain ⟨hfraction, n, hn⟩ := hq
  have hnear : |q - n| ≤ 1 / (2 * 10 ^ 3) := by
    norm_num at hn ⊢
    exact hn
  rw [tickLabel_eq h, if_neg hfraction, trimmed_eq_append_point h (by norm_num) hnear, String.ofList_append, String.ofList_toList]

theorem isNumeral_tickLabel (hq : Clear q) : IsNumeral (tickLabel v).toList := by
  rw [tickLabel_eq h]
  by_cases hfraction : Int.fract |q| < 1 / 10 ^ 9
  · rw [if_pos hfraction]
    exact isNumeral_fixed_zero h
  · rw [if_neg hfraction, String.toList_ofList]
    refine isNumeral_trimmed h (by norm_num) fun n => ?_
    have hn := hq.resolve_left hfraction n
    norm_num at hn ⊢
    exact hn

theorem isNumeral_tickLabel_iff : IsNumeral (tickLabel v).toList ↔ Clear q := by
  refine ⟨fun hnumeral => ?_, isNumeral_tickLabel h⟩
  by_contra hq
  refine hnumeral.getLast?_ne_point ?_
  rw [tickLabel_eq_append_point h hq]
  simp

end Labels

/-! ## Ticks of an axis -/

section Endless

variable {step top tick : Float} {s : UnpackedFloat.Sign}

/-- an infinite tick does not change any more, so if it is within the axis there is no end -/
theorem ticksFrom_of_infinite (hstep : UnpackedFloat.add .binary64 (.infinity s) step.toModel.unpack = .infinity s)
    (htick : tick.toModel.unpack = .infinity s) (hle : tick ≤ top + step * 1e-9) (bound : Nat) :
    ticksFrom step top bound tick = none := by
  induction bound generalizing tick with
  | zero => rfl
  | succ bound ih =>
    have hnext : (tick + step).toModel.unpack = .infinity s := by
      rw [unpack_add, htick, hstep, unpack_pack_infinity]
    have hagain : tick + step ≤ top + step * 1e-9 := by
      rw [le_iff_compare, hnext, ← htick, ← le_iff_compare]
      exact hle
    rw [ticksFrom, if_pos hle, ih hnext hagain]
    rfl

/-- what follows a finite tick on an axis that ends is finite or nothing -/
theorem ticksFrom_of_not_isFinite {bound : Nat} {ticks : List Float} (htick : isFinite tick = true)
    (hnext : isFinite (tick + step) = false) (h : ticksFrom step top bound (tick + step) = some ticks) : ticks = [] := by
  cases bound with
  | zero => cases h
  | succ bound =>
    have hend : ¬ tick + step ≤ top + step * 1e-9 := by
      intro hle
      rcases unpack_of_not_isFinite hnext with ⟨s, hs⟩ | hnan
      · have hstep := add_infinity_of_add (fit_of_isFinite htick) ((unpack_add tick step).symm.trans hs)
        rw [ticksFrom_of_infinite hstep hs hle] at h
        cases h
      · rw [le_iff_compare, hnan] at hle
        obtain ⟨o, ho, -⟩ := hle
        cases ho
    rw [ticksFrom, if_neg hend] at h
    exact (Option.some.inj h).symm

/-- the ticks of an axis that ends are finite -/
theorem isFinite_of_mem_ticksFrom {bound : Nat} {ticks : List Float} (htick : isFinite tick = true)
    (h : ticksFrom step top bound tick = some ticks) : ∀ t ∈ ticks, isFinite t = true := by
  induction bound generalizing tick ticks with
  | zero => cases h
  | succ bound ih =>
    rw [ticksFrom] at h
    by_cases hle : tick ≤ top + step * 1e-9
    · rw [if_pos hle] at h
      obtain ⟨rest, hrest, rfl⟩ := Option.map_eq_some_iff.1 h
      refine List.forall_mem_cons.2 ⟨htick, ?_⟩
      by_cases hnext : isFinite (tick + step) = true
      · exact ih hnext hrest
      · rw [ticksFrom_of_not_isFinite htick (by simpa using hnext) hrest]
        simp
    · rw [if_neg hle] at h
      obtain rfl := Option.some.inj h
      simp

end Endless

/-- the texts of the value axis are the labels of its ticks and the title -/
theorem filterMap_content_axis (f : Frame) (ticks : List Float) :
    (axis f ticks).filterMap (·.content) = ticks.map tickLabel ++ ["Average time (ms)"] := by
  have hticks : (ticks.flatMap (tickMarks f)).filterMap (·.content) = ticks.map tickLabel := by
    induction ticks with
    | nil => rfl
    | cons tick ticks ih =>
      rw [List.flatMap_cons, List.filterMap_append, ih]
      rfl
  rw [axis, List.filterMap_append, hticks]
  rfl

/-! ## Labels of an axis -/

/-- **Labels of ticks are numerals, near whole numbers apart.** The label of a finite tick is a numeral exactly if the
tick has a fraction of less than a billionth or is more than half a thousandth away from every whole number; otherwise
it is the nearest whole number with a point behind it. The texts of an axis are the labels of its ticks, which are
finite, and its title. -/
theorem tick_labels_are_numerals_iff {v : Float} (hv : isFinite v = true) :
    (∃ q, value? v = some q ∧ (IsNumeral (tickLabel v).toList ↔ Clear q) ∧
      (¬ Clear q → IsNumeral (fixed 0 v).toList ∧ tickLabel v = fixed 0 v ++ ".")) ∧
    ∀ f bound ticks, Frame.ticksWithin f bound = some ticks →
      (∀ tick ∈ ticks, isFinite tick = true) ∧
        (axis f ticks).filterMap (·.content) = ticks.map tickLabel ++ ["Average time (ms)"] := by
  refine ⟨?_, fun f bound ticks hticks => ⟨?_, filterMap_content_axis f ticks⟩⟩
  · obtain ⟨q, hvalue⟩ := exists_value hv
    exact ⟨q, hvalue, isNumeral_tickLabel_iff hvalue, fun hq =>
      ⟨isNumeral_fixed_zero hvalue, tickLabel_eq_append_point hvalue hq⟩⟩
  · exact isFinite_of_mem_ticksFrom (by decide +kernel) hticks

/-- an axis of no height -/
def flatFrame : Frame where
  left := 80.0
  right := 780.0
  upper := 50.0
  lower := 380.0
  first := 0.0
  last := 1.0
  top := 0.0
  top_nonneg := by decide +kernel

/-- a tick between two whole numbers, and the one tick of an axis of no height -/
theorem tick_labels_are_numerals_halfway :
    isFinite (-2.5) = true ∧ IsNumeral (tickLabel (-2.5)).toList ∧
      Frame.ticksWithin flatFrame tickBound = some [0.0] ∧
      (axis flatFrame [0.0]).filterMap (·.content) = ["0", "Average time (ms)"] := by
  have hfinite : isFinite (-2.5) = true := by decide +kernel
  have hticks : Frame.ticksWithin flatFrame tickBound = some [0.0] := by decide +kernel
  have hparts : Binary.ofFloat? (-2.5) = some ⟨true, 5629499534213120, -51⟩ := by decide +kernel
  obtain ⟨⟨q, hq, hnumeral, -⟩, haxis⟩ := tick_labels_are_numerals_iff hfinite
  have hvalue : q = -(5 / 2) := by
    rw [value?, hparts, Option.map_some, Binary.value] at hq
    norm_num at hq
    exact hq.symm
  refine ⟨hfinite, hnumeral.2 (.inr fun n => ?_), hticks, ?_⟩
  · rw [hvalue, lt_abs]
    rcases le_or_gt n (-3) with hn | hn
    · left
      have hn' : (n : ℚ) ≤ -3 := by exact_mod_cast hn
      linarith
    · right
      have hn' : (-2 : ℚ) ≤ n := by exact_mod_cast (by omega : -2 ≤ n)
      linarith
  · rw [(haxis _ _ _ hticks).2]
    decide +kernel

/-- two ten-thousandths are drawn as a zero with a point behind it -/
theorem tickLabel_ends_in_point :
    isFinite 0.0002 = true ∧ tickLabel 0.0002 = "0." ∧ ¬ IsNumeral (tickLabel 0.0002).toList := by
  have hlabel : tickLabel 0.0002 = "0." := by decide +kernel
  refine ⟨by decide +kernel, hlabel, fun hnumeral => hnumeral.getLast?_ne_point ?_⟩
  rw [hlabel]
  rfl

end Benchwork.Page
