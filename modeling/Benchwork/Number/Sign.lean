/-
Numbers above zero.

A number is above zero exactly if it is infinite or finite with a positive sign (`pos_iff_aboveZero`), and it is not below
zero if it is that or a zero (`nonneg_of_notBelowZero`); a NaN is neither. A product of numbers above zero may be rounded
to zero, but never below it (`mul_nonneg_of_pos`).
-/
import Benchwork.Number.Binary

namespace Benchwork.Number

open Float.Model Float.Model.UnpackedFloat

/-! ## Comparisons -/

theorem lt_iff_compare {x y : Float} : x < y ↔ x.toModel.unpack.compare y.toModel.unpack = some .lt := by
  have hlt : x < y ↔ (x.toModel.unpack.compare y.toModel.unpack == some .lt) = true := by
    change decide (x.toModel < y.toModel) = true ↔ _
    rw [decide_eq_true_iff]
    exact Iff.rfl
  rw [hlt, beq_iff_eq]

theorem le_iff_compare {x y : Float} :
    x ≤ y ↔ ∃ o, x.toModel.unpack.compare y.toModel.unpack = some o ∧ o.isLE = true := by
  have hle : x ≤ y ↔ (x.toModel.unpack.compare y.toModel.unpack).any (·.isLE) = true := by
    change decide (x.toModel ≤ y.toModel) = true ↔ _
    rw [decide_eq_true_iff]
    exact Iff.rfl
  rw [hle, Option.any_eq_true]

/-- infinite, or finite with a positive sign -/
inductive AboveZero : UnpackedFloat → Prop
  | finite {m : Nat} {e : Int} (hm : 0 < m) : AboveZero (.finite .positive m e hm)
  | infinity : AboveZero (.infinity .positive)

inductive NotBelowZero : UnpackedFloat → Prop
  | zero (s : Sign) : NotBelowZero (.zero s)
  | above {u : UnpackedFloat} : AboveZero u → NotBelowZero u

theorem aboveZero_of_compare_zero {s : Sign} {u : UnpackedFloat} (h : (UnpackedFloat.zero s).compare u = some .lt) :
    AboveZero u := by
  cases u with
  | notANumber => cases h
  | infinity s' =>
    cases s' with
    | positive => exact .infinity
    | negative => cases h
  | zero s' => cases h
  | finite s' m e hm =>
    cases s' with
    | positive => exact .finite hm
    | negative => cases h

theorem unpack_zero : (0.0 : Float).toModel.unpack = .zero .positive := by rfl

theorem pos_iff_aboveZero {x : Float} : x > 0.0 ↔ AboveZero x.toModel.unpack := by
  rw [gt_iff_lt, lt_iff_compare, unpack_zero]
  constructor
  · exact aboveZero_of_compare_zero
  · intro h
    generalize x.toModel.unpack = u at h
    cases h with
    | finite hm => rfl
    | infinity => rfl

theorem nonneg_of_notBelowZero {x : Float} (h : NotBelowZero x.toModel.unpack) : 0.0 ≤ x := by
  rw [le_iff_compare, unpack_zero]
  generalize x.toModel.unpack = u at h
  cases h with
  | zero s => exact ⟨.eq, rfl, rfl⟩
  | above h =>
    cases h with
    | finite hm => exact ⟨.lt, rfl, rfl⟩
    | infinity => exact ⟨.lt, rfl, rfl⟩

theorem nonneg_of_pos {x : Float} (h : x > 0.0) : 0.0 ≤ x := nonneg_of_notBelowZero (.above (pos_iff_aboveZero.1 h))

/-! ## Packing -/

theorem unpackSign_packComponents (s : Sign) (e : BitVec Format.binary64.exponentBits)
    (m : BitVec Format.binary64.mantissaBitsWithoutImplicit) :
    unpackSign (packComponents .binary64 s e m) = s.toBitVec := by
  change (s.toBitVec ++ e ++ m).extractLsb' 63 1 = s.toBitVec
  rw [BitVec.extractLsb'_append_eq_of_le (by decide), BitVec.extractLsb'_append_eq_of_le (by decide)]
  cases s <;> rfl

/-- what has a positive sign and is no NaN -/
theorem notBelowZero_packComponents {e : BitVec Format.binary64.exponentBits}
    (m : BitVec Format.binary64.mantissaBitsWithoutImplicit) (he : e ≠ -1#_) :
    NotBelowZero (UnpackedFloat.unpack .binary64 (packComponents .binary64 .positive e m)) := by
  have hsign : Sign.ofBitVec (unpackSign (packComponents .binary64 .positive e m)) = .positive := by
    rw [unpackSign_packComponents]
    rfl
  unfold UnpackedFloat.unpack
  dsimp only
  rw [unpackExponent_packComponents, hsign, if_neg he]
  by_cases hzero : e = 0#_
  · rw [if_pos hzero]
    by_cases hm : unpackMantissa (packComponents .binary64 .positive e m) = 0#_
    · rw [dif_pos hm]
      exact .zero _
    · rw [dif_neg hm]
      exact .above (.finite _)
  · rw [if_neg hzero]
    exact .above (.finite _)

theorem notBelowZero_pack {u : UnpackedFloat} (h : NotBelowZero u) : NotBelowZero (Float.Model.pack u).unpack := by
  cases h with
  | zero s => cases s <;> exact .zero _
  | above h =>
    cases h with
    | infinity => exact .above .infinity
    | @finite m e hm =>
      change NotBelowZero (UnpackedFloat.unpack .binary64 (UnpackedFloat.pack .binary64 (.finite .positive m e hm)))
      unfold UnpackedFloat.pack
      dsimp only
      generalize (e + Format.binary64.exponentBias + Format.binary64.mantissaBitsWithoutImplicit).toNat = biased
      by_cases hlarge : 2 ^ Format.binary64.exponentBits ≤ biased + 1
      · rw [if_pos hlarge]
        exact .above .infinity
      · rw [if_neg hlarge]
        by_cases hfull : m.log2 + 1 = Format.binary64.mantissaBits
        · rw [if_pos hfull]
          refine notBelowZero_packComponents _ fun hlast => hlarge ?_
          have htop : biased % 2048 = 2047 := congrArg BitVec.toNat hlast
          change 2048 ≤ biased + 1
          omega
        · rw [if_neg hfull]
          exact notBelowZero_packComponents _ (by decide)

/-! ## Products -/

theorem notBelowZero_mul {u v : UnpackedFloat} (hu : AboveZero u) (hv : AboveZero v) :
    NotBelowZero (UnpackedFloat.mul .binary64 u v) := by
  cases hu with
  | infinity =>
    cases hv with
    | infinity => exact .above .infinity
    | finite hm => exact .above .infinity
  | @finite m e hm =>
    cases hv with
    | infinity => exact .above .infinity
    | @finite m' e' hm' =>
      change NotBelowZero (roundWithAccuracy .binary64 .positive (m * m') (e + e') .exact)
      unfold roundWithAccuracy
      dsimp only
      generalize ExtendedMantissa.mantissa _ = n
      by_cases hn : n = 0
      · rw [dif_pos hn]
        exact .zero _
      · rw [dif_neg hn]
        exact .above (.finite _)

theorem mul_nonneg_of_pos {x y : Float} (hx : x > 0.0) (hy : y > 0.0) : 0.0 ≤ x * y := by
  have hproduct := notBelowZero_mul (pos_iff_aboveZero.1 hx) (pos_iff_aboveZero.1 hy)
  exact nonneg_of_notBelowZero (notBelowZero_pack hproduct)

end Benchwork.Number
