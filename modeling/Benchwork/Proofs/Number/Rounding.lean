/-
Rounding that has nothing to round.

A finite number is a sign, a mantissa and an exponent. They are in `Canonical` form if the mantissa has at most 53 bits
and the exponent is as small as that allows, so each magnitude has one form only, and magnitudes in this form are compared
by exponent first (`Canonical.compare_eq`).

Results of arithmetic come as some mantissa and exponent and are brought into this form. If their value has a canonical
form, that is what they are rounded to (`round_exact`), and packing it into bits keeps it (`unpack_pack`). So an operation
whose exact result has 53 bits gives that result.
-/
import Mathlib.Tactic
import Benchwork.Proofs.Number.Exact

namespace Benchwork.Number

open Float.Model Float.Model.UnpackedFloat

/-! ## Canonical form -/

/-- a magnitude with at most 53 bits, all of them used unless the exponent is the least one -/
structure Canonical (m : Nat) (e : Int) : Prop where
  pos : 0 < m
  lt : m < 2 ^ 53
  least : -1074 ≤ e
  greatest : e ≤ 971
  full : 2 ^ 52 ≤ m ∨ e = -1074

/-- equal magnitudes differ by a power of two -/
theorem eq_mul_pow_of_value_eq {m m' : Nat} {e e' : Int} (hle : e ≤ e') (h : (m : ℚ) * 2 ^ e = m' * 2 ^ e') :
    m = m' * 2 ^ (e' - e).toNat := by
  have hsplit : (2 : ℚ) ^ e' = 2 ^ (e' - e).toNat * 2 ^ e := by
    rw [← zpow_natCast, ← zpow_add₀ (by norm_num)]
    congr 1
    omega
  rw [hsplit, ← mul_assoc] at h
  have hcancel := mul_right_cancel₀ (zpow_ne_zero e two_ne_zero) h
  exact_mod_cast hcancel

theorem log2_mul_pow {m : Nat} (h : 0 < m) (k : Nat) : (m * 2 ^ k).log2 = m.log2 + k := by
  rw [Nat.log2_eq_iff (by positivity), pow_add, Nat.add_right_comm, pow_add]
  exact ⟨Nat.mul_le_mul_right _ (Nat.log2_self_le h.ne'), Nat.mul_lt_mul_of_pos_right Nat.lt_log2_self (by positivity)⟩

/-- the place of the first bit belongs to the magnitude, however it is written -/
theorem totalExponent_of_value_eq {m m' : Nat} {e e' : Int} (hm' : 0 < m') (h : (m : ℚ) * 2 ^ e = m' * 2 ^ e') :
    totalExponent m e = totalExponent m' e' := by
  rw [totalExponent, totalExponent]
  rcases le_total e e' with hle | hle
  · rw [eq_mul_pow_of_value_eq hle h, log2_mul_pow hm']
    omega
  · have hm := eq_mul_pow_of_value_eq hle h.symm
    have hpos : 0 < m := Nat.pos_of_ne_zero fun hzero => by simp [hm, hzero] at hm'
    rw [hm, log2_mul_pow hpos]
    omega

/-- the exponent of the canonical form is the one that rounding aims at -/
theorem Canonical.targetExponent_eq {m m' : Nat} {e e' : Int} (h : Canonical m' e')
    (hvalue : (m : ℚ) * 2 ^ e = m' * 2 ^ e') : Format.binary64.targetExponent (totalExponent m e) = e' := by
  have hlog : m'.log2 < 53 := (Nat.log2_lt h.pos.ne').2 h.lt
  have hleast := h.least
  rw [totalExponent_of_value_eq h.pos hvalue]
  change max ((m'.log2 : Int) + 1 + e' - 53) (-1074) = e'
  rcases h.full with hfull | rfl
  · have hge : 52 ≤ m'.log2 := (Nat.le_log2 h.pos.ne').2 hfull
    omega
  · omega

/-- with the greater exponent goes the greater magnitude -/
theorem Canonical.lt_of_exponent_lt {m m' : Nat} {e e' : Int} (h : Canonical m e) (h' : Canonical m' e') (he : e < e') :
    (m : ℚ) * 2 ^ e < m' * 2 ^ e' := by
  have hfull : 2 ^ 52 ≤ m' := h'.full.resolve_right fun hleast => by have := h.least; omega
  calc (m : ℚ) * 2 ^ e < 2 ^ 53 * 2 ^ e := by
        gcongr
        exact_mod_cast h.lt
    _ = 2 ^ 52 * 2 ^ (e + 1) := by
        rw [zpow_add_one₀ (by norm_num)]
        ring
    _ ≤ m' * 2 ^ e' := by
        gcongr
        · exact_mod_cast hfull
        · norm_num
        · omega

/-- canonical magnitudes are compared by their exponents and then by their mantissas -/
theorem Canonical.compare_eq {m m' : Nat} {e e' : Int} (h : Canonical m e) (h' : Canonical m' e') :
    (compare e e').then (compare m m') = compare ((m : ℚ) * 2 ^ e) (m' * 2 ^ e') := by
  rcases lt_trichotomy e e' with he | rfl | he
  · rw [compare_lt_iff_lt.2 he, compare_lt_iff_lt.2 (h.lt_of_exponent_lt h' he)]
    rfl
  · have hpos : (0 : ℚ) < 2 ^ e := by positivity
    rw [compare_eq_iff_eq.2 rfl]
    change compare m m' = _
    rcases lt_trichotomy m m' with hm | rfl | hm
    · rw [compare_lt_iff_lt.2 hm, compare_lt_iff_lt.2]
      exact mul_lt_mul_of_pos_right (by exact_mod_cast hm) hpos
    · rw [compare_eq_iff_eq.2 rfl, compare_eq_iff_eq.2 rfl]
    · rw [compare_gt_iff_gt.2 hm, compare_gt_iff_gt.2]
      exact mul_lt_mul_of_pos_right (by exact_mod_cast hm) hpos
  · rw [compare_gt_iff_gt.2 he, compare_gt_iff_gt.2 (h'.lt_of_exponent_lt h he)]
    rfl

/-- a magnitude with at most 53 bits has a canonical form -/
theorem exists_canonical {m : Nat} {e : Int} (hpos : 0 < m) (hlt : m < 2 ^ 53) (hleast : -1074 ≤ e) (hgreatest : e ≤ 971) :
    ∃ m' e', Canonical m' e' ∧ (m : ℚ) * 2 ^ e = m' * 2 ^ e' := by
  have hlog : m.log2 < 53 := (Nat.log2_lt hpos.ne').2 hlt
  -- all the bits are used, or as many as the least exponent allows
  obtain ⟨k, hk⟩ : ∃ k, k = min (52 - m.log2) (e + 1074).toNat := ⟨_, rfl⟩
  have hvalue : (m : ℚ) * 2 ^ e = (m * 2 ^ k : Nat) * 2 ^ (e - k) := by
    push_cast
    rw [mul_assoc, ← zpow_natCast, ← zpow_add₀ (by norm_num)]
    congr 2
    omega
  have hbits : m * 2 ^ k < 2 ^ (m.log2 + 1 + k) := by
    rw [pow_add]
    exact Nat.mul_lt_mul_of_pos_right Nat.lt_log2_self (by positivity)
  refine ⟨m * 2 ^ k, e - k, ⟨by positivity, ?_, by omega, by omega, ?_⟩, hvalue⟩
  · exact hbits.trans_le (Nat.pow_le_pow_right (by norm_num) (by omega))
  · by_cases hall : k = 52 - m.log2
    · left
      calc 2 ^ 52 = 2 ^ m.log2 * 2 ^ k := by
            rw [← pow_add]
            congr 1
            omega
        _ ≤ m * 2 ^ k := Nat.mul_le_mul_right _ (Nat.log2_self_le hpos.ne')
    · right
      omega

/-! ## Rounding -/

/-- zeros that are shifted out leave no trace -/
theorem shiftRight_exact (m k : Nat) :
    ExtendedMantissa.ofMantissaAndAccuracy (m * 2 ^ k) .exact >>> k = ⟨m, false, false⟩ := by
  change k.repeat ExtendedMantissa.shiftRightOne _ = _
  induction k generalizing m with
  | zero => simp [Nat.repeat, ExtendedMantissa.ofMantissaAndAccuracy]
  | succ k ih =>
    have hsplit : m * 2 ^ (k + 1) = m * 2 * 2 ^ k := by ring
    rw [Nat.repeat, hsplit, ih]
    simp [ExtendedMantissa.shiftRightOne]

theorem shiftToTargetExponent_exact {m m' : Nat} {e e' : Int} (h : Canonical m' e') (hle : e ≤ e')
    (hvalue : (m : ℚ) * 2 ^ e = m' * 2 ^ e') :
    shiftToTargetExponent .binary64 m e .exact = (⟨m', false, false⟩, e') := by
  rw [shiftToTargetExponent, h.targetExponent_eq hvalue, shiftToExponent, eq_mul_pow_of_value_eq hle hvalue,
    shiftRight_exact, Int.toNat_of_nonneg (by omega), add_sub_cancel]

/-- a magnitude with zeros for the bits that are too many gives way to its canonical form -/
theorem roundWithAccuracy_exact (s : Sign) {m m' : Nat} {e e' : Int} (h : Canonical m' e') (hle : e ≤ e')
    (hvalue : (m : ℚ) * 2 ^ e = m' * 2 ^ e') : roundWithAccuracy .binary64 s m e .exact = .finite s m' e' h.pos := by
  have hrounded : ExtendedMantissa.roundedMantissa ⟨m', false, false⟩ = m' := rfl
  rw [roundWithAccuracy, shiftToTargetExponent_exact h hle hvalue]
  dsimp only
  rw [hrounded, shiftToTargetExponent_exact h le_rfl rfl]
  dsimp only
  rw [dif_neg h.pos.ne']

/-- what has a canonical form is rounded to it -/
theorem round_exact (s : Sign) {m m' : Nat} {e e' : Int} (h : Canonical m' e') (hvalue : (m : ℚ) * 2 ^ e = m' * 2 ^ e') :
    UnpackedFloat.round .binary64 s m e = .finite s m' e' h.pos := by
  rw [UnpackedFloat.round, h.targetExponent_eq hvalue, decreaseExponent]
  -- bits are added so that the exponent is not above the one aimed at
  refine roundWithAccuracy_exact s h (by omega) ?_
  rw [← hvalue, Nat.shiftLeft_eq]
  push_cast
  rw [mul_assoc, ← zpow_natCast, ← zpow_add₀ (by norm_num), add_sub_cancel]

/-! ## Packing -/

def isMinus : Sign → Bool
  | .negative => true
  | .positive => false

/-- sign, mantissa and exponent of a finite number -/
def binary? : UnpackedFloat → Option Binary
  | .zero s => some ⟨isMinus s, 0, -1074⟩
  | .finite s m e _ => some ⟨isMinus s, m, e⟩
  | _ => none

/-- a finite number in the form in which it can be packed -/
inductive Fit : UnpackedFloat → Prop
  | zero (s : Sign) : Fit (.zero s)
  | finite (s : Sign) {m : Nat} {e : Int} (h : Canonical m e) : Fit (.finite s m e h.pos)

/-- a zero has no mantissa, so the parts tell the number -/
theorem Fit.eq_of_binary?_eq {u v : UnpackedFloat} (hu : Fit u) (hv : Fit v) (h : binary? u = binary? v) : u = v := by
  have hsign : ∀ {s t : Sign}, isMinus s = isMinus t → s = t := fun {s t} hst => by
    cases s <;> cases t <;> first | rfl | cases hst
  cases hu with
  | zero s =>
    cases hv with
    | zero t =>
      obtain rfl : s = t := hsign (Binary.mk.inj (Option.some.inj h)).1
      rfl
    | finite t ht => exact absurd (Binary.mk.inj (Option.some.inj h)).2.1 ht.pos.ne
  | finite s hs =>
    cases hv with
    | zero t => exact absurd (Binary.mk.inj (Option.some.inj h)).2.1 hs.pos.ne'
    | finite t ht =>
      obtain ⟨hst, rfl, rfl⟩ := Binary.mk.inj (Option.some.inj h)
      obtain rfl := hsign hst
      rfl

theorem isMinus_ofBitVec (v : BitVec 1) : isMinus (Sign.ofBitVec v) = decide (v.toNat = 1) := by
  revert v
  decide

theorem finite_congr {s : Sign} {m m' : Nat} {e e' : Int} (hm : 0 < m) (hm' : 0 < m') (h : m = m') (h' : e = e') :
    UnpackedFloat.finite s m e hm = .finite s m' e' hm' := by
  subst h h'
  rfl

section Unpacking

variable (b : BitVec Format.binary64.numBits)

theorem unpack_of_last (h : (unpackExponent b).toNat = 2047) : binary? (UnpackedFloat.unpack .binary64 b) = none := by
  have hlast : unpackExponent b = -1#_ := BitVec.eq_of_toNat_eq h
  unfold UnpackedFloat.unpack
  rw [if_pos hlast]
  by_cases hm : unpackMantissa b = 0#_
  · rw [if_pos hm]
    rfl
  · rw [if_neg hm]
    rfl

theorem unpack_of_zero (h : (unpackExponent b).toNat = 0) (hm : (unpackMantissa b).toNat = 0) :
    UnpackedFloat.unpack .binary64 b = .zero (Sign.ofBitVec (unpackSign b)) := by
  have hzero : unpackExponent b = 0#_ := BitVec.eq_of_toNat_eq h
  have hlast : unpackExponent b ≠ -1#_ := fun hlast => by
    rw [hzero] at hlast
    exact absurd hlast (by decide)
  unfold UnpackedFloat.unpack
  rw [if_neg hlast, if_pos hzero, dif_pos (BitVec.eq_of_toNat_eq hm)]

theorem unpack_of_least (h : (unpackExponent b).toNat = 0) (hm : 0 < (unpackMantissa b).toNat) :
    UnpackedFloat.unpack .binary64 b =
      .finite (Sign.ofBitVec (unpackSign b)) (unpackMantissa b).toNat (-1074) hm := by
  have hzero : unpackExponent b = 0#_ := BitVec.eq_of_toNat_eq h
  have hlast : unpackExponent b ≠ -1#_ := fun hlast => by
    rw [hzero] at hlast
    exact absurd hlast (by decide)
  have hmantissa : unpackMantissa b ≠ 0#_ := fun hnone => by
    rw [hnone] at hm
    exact absurd hm (by decide)
  unfold UnpackedFloat.unpack
  rw [if_neg hlast, if_pos hzero, dif_neg hmantissa]
  refine finite_congr _ hm rfl ?_
  change ((unpackExponent b).toNat : Int) - (1023 + 52) + 1 = -1074
  omega

theorem unpack_of_normal (h : (unpackExponent b).toNat ≠ 0) (h' : (unpackExponent b).toNat ≠ 2047) :
    UnpackedFloat.unpack .binary64 b =
      .finite (Sign.ofBitVec (unpackSign b)) (2 ^ 52 + (unpackMantissa b).toNat)
        (((unpackExponent b).toNat : Int) - 1075) (Nat.add_pos_left (Nat.two_pow_pos 52) _) := by
  have hzero : unpackExponent b ≠ 0#_ := fun hzero => h (congrArg BitVec.toNat hzero)
  have hlast : unpackExponent b ≠ -1#_ := fun hlast => h' (congrArg BitVec.toNat hlast)
  have hfull : (1#1 ++ unpackMantissa b).toNat = 2 ^ 52 + (unpackMantissa b).toNat := by
    rw [BitVec.toNat_append, ← Nat.shiftLeft_add_eq_or_of_lt (unpackMantissa b).isLt, Nat.shiftLeft_eq]
    rfl
  unfold UnpackedFloat.unpack
  rw [if_neg hlast, if_neg hzero]
  exact finite_congr _ _ hfull rfl

/-- the parts of a number from its bits -/
theorem binary?_unpack : binary? (UnpackedFloat.unpack .binary64 b) =
    if (unpackExponent b).toNat = 2047 then none
    else if (unpackExponent b).toNat = 0 then
      some ⟨decide ((unpackSign b).toNat = 1), (unpackMantissa b).toNat, -1074⟩
    else some ⟨decide ((unpackSign b).toNat = 1), 2 ^ 52 + (unpackMantissa b).toNat,
      ((unpackExponent b).toNat : Int) - 1075⟩ := by
  rw [← isMinus_ofBitVec]
  by_cases hlast : (unpackExponent b).toNat = 2047
  · rw [if_pos hlast, unpack_of_last b hlast]
  rw [if_neg hlast]
  by_cases hzero : (unpackExponent b).toNat = 0
  · rw [if_pos hzero]
    rcases Nat.eq_zero_or_pos (unpackMantissa b).toNat with hm | hm
    · rw [unpack_of_zero b hzero hm, hm]
      rfl
    · rw [unpack_of_least b hzero hm]
      rfl
  · rw [if_neg hzero, unpack_of_normal b hzero hlast]
    rfl

theorem fit_unpack (h : (unpackExponent b).toNat ≠ 2047) : Fit (UnpackedFloat.unpack .binary64 b) := by
  have hexponent : (unpackExponent b).toNat < 2048 := (unpackExponent b).isLt
  have hmantissa : (unpackMantissa b).toNat < 2 ^ 52 := (unpackMantissa b).isLt
  by_cases hzero : (unpackExponent b).toNat = 0
  · rcases Nat.eq_zero_or_pos (unpackMantissa b).toNat with hm | hm
    · rw [unpack_of_zero b hzero hm]
      exact .zero _
    · rw [unpack_of_least b hzero hm]
      exact .finite _ ⟨hm, by omega, by omega, by omega, .inr rfl⟩
  · rw [unpack_of_normal b hzero h]
    exact .finite _ ⟨by positivity, by omega, by omega, by omega, .inl (by omega)⟩

end Unpacking

theorem decide_toBitVec (s : Sign) : decide (s.toBitVec.toNat = 1) = isMinus s := by
  cases s <;> rfl

/-- what is unpacked from components has their parts -/
theorem Fit.unpack_packComponents {u : UnpackedFloat} (hu : Fit u) (s : Sign) {e : BitVec Format.binary64.exponentBits}
    {m : BitVec Format.binary64.mantissaBitsWithoutImplicit} (hlast : e.toNat ≠ 2047)
    (hparts : binary? u = if e.toNat = 0 then some ⟨isMinus s, m.toNat, -1074⟩
      else some ⟨isMinus s, 2 ^ 52 + m.toNat, (e.toNat : Int) - 1075⟩) :
    UnpackedFloat.unpack .binary64 (packComponents .binary64 s e m) = u := by
  refine Fit.eq_of_binary?_eq (fit_unpack _ ?_) hu ?_
  · rwa [unpackExponent_packComponents]
  · rw [binary?_unpack, unpackExponent_packComponents, unpackMantissa_packComponents, unpackSign_packComponents,
      decide_toBitVec, if_neg hlast, hparts]

section Packing

variable (s : Sign) {m : Nat} {e : Int} (h : Canonical m e)

include h

/-- the components of a number: the first bit of the mantissa is left out if all the bits are used -/
theorem pack_eq : UnpackedFloat.pack .binary64 (.finite s m e h.pos) =
    if 2 ^ 52 ≤ m then packComponents .binary64 s (.ofNat _ (e + 1075).toNat) (.ofNat _ m)
    else packComponents .binary64 s (.ofNat _ 0) (.ofNat _ m) := by
  have hleast := h.least
  have hgreatest := h.greatest
  have hbiased : (e + Format.binary64.exponentBias + Format.binary64.mantissaBitsWithoutImplicit).toNat =
      (e + 1075).toNat := by
    change (e + 1023 + 52).toNat = _
    omega
  have hfits : ¬ 2 ^ Format.binary64.exponentBits ≤ (e + 1075).toNat + 1 := by
    change ¬ 2048 ≤ (e + 1075).toNat + 1
    omega
  have hbits : m.log2 + 1 = Format.binary64.mantissaBits ↔ 2 ^ 52 ≤ m := by
    have hhigh : m.log2 < 53 := (Nat.log2_lt h.pos.ne').2 h.lt
    rw [← Nat.le_log2 h.pos.ne']
    change m.log2 + 1 = 53 ↔ _
    omega
  unfold UnpackedFloat.pack
  rw [hbiased]
  dsimp only
  rw [if_neg hfits]
  by_cases hfull : 2 ^ 52 ≤ m
  · rw [if_pos (hbits.2 hfull), if_pos hfull]
  · rw [if_neg (mt hbits.1 hfull), if_neg hfull]

theorem unpack_pack_finite :
    UnpackedFloat.unpack .binary64 (UnpackedFloat.pack .binary64 (.finite s m e h.pos)) = .finite s m e h.pos := by
  have hlt := h.lt
  have hleast := h.least
  have hgreatest := h.greatest
  have hmantissa : (BitVec.ofNat Format.binary64.mantissaBitsWithoutImplicit m).toNat = m % 2 ^ 52 := BitVec.toNat_ofNat ..
  rw [pack_eq s h]
  by_cases hfull : 2 ^ 52 ≤ m
  · have hexponent : (BitVec.ofNat Format.binary64.exponentBits (e + 1075).toNat).toNat = (e + 1075).toNat := by
      rw [BitVec.toNat_ofNat]
      exact Nat.mod_eq_of_lt (by change _ < 2048; omega)
    have hsame : 2 ^ 52 + m % 2 ^ 52 = m := by omega
    have hsame' : ((e + 1075).toNat : Int) - 1075 = e := by omega
    rw [if_pos hfull]
    refine (Fit.finite s h).unpack_packComponents s (by omega) ?_
    rw [hexponent, hmantissa, if_neg (by omega), hsame, hsame']
    rfl
  · have hexponent : (BitVec.ofNat Format.binary64.exponentBits 0).toNat = 0 := rfl
    have hsame : m % 2 ^ 52 = m := Nat.mod_eq_of_lt (by omega)
    rw [if_neg hfull]
    refine (Fit.finite s h).unpack_packComponents s (by omega) ?_
    rw [hexponent, hmantissa, if_pos rfl, hsame, ← h.full.resolve_left hfull]
    rfl

end Packing

/-- packing keeps what is in the form for it -/
theorem Fit.unpack_pack {u : UnpackedFloat} (h : Fit u) : (Float.Model.pack u).unpack = u := by
  cases h with
  | zero s => cases s <;> rfl
  | finite s h => exact unpack_pack_finite s h

end Benchwork.Number
