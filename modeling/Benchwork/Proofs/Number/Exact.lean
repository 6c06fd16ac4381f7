/-
Exact values and positive numbers.

`value?` is the exact value of a finite number, as a fraction. What reaches a positive number is positive
(`pos_of_ge_pos`). A positive number is cut to the floor of its exact value, as far as the 64-bit integers go
(`toIntWithin64_of_pos`).
-/
import Mathlib.Data.Rat.Floor
import Mathlib.Tactic
import Benchwork.Number.Sign
import Benchwork.Proofs.Number.Finite

namespace Benchwork.Number

open Float.Model

/-! ## The exact value -/

def Binary.value (b : Binary) : ℚ := (if b.negative then -1 else 1) * (b.mantissa * 2 ^ b.exponent)

/-- the exact value of a finite number -/
def value? (x : Float) : Option ℚ := (Binary.ofFloat? x).map Binary.value

theorem cast_twoTo (n : Nat) : (twoTo n : ℚ) = 2 ^ n := by
  rw [twoTo]
  exact Nat.cast_pow 2 n

theorem zpow_eq_ratio (e : Int) : (2 : ℚ) ^ e = twoTo e.toNat / twoTo (-e).toNat := by
  rw [cast_twoTo, cast_twoTo]
  rcases Int.eq_nat_or_neg e with ⟨n, rfl | rfl⟩
  · simp
  · simp

theorem value?_of_ofFloat? {x : Float} {b : Binary} (h : Binary.ofFloat? x = some b) : value? x = some b.value := by
  rw [value?, h, Option.map_some]

theorem exists_value {x : Float} (h : isFinite x = true) : ∃ q, value? x = some q := by
  obtain ⟨b, hb⟩ := ofFloat?_of_isFinite h
  exact ⟨b.value, value?_of_ofFloat? hb⟩

theorem eq_of_ofFloat?_eq_some {x : Float} {b : Binary} (h : Binary.ofFloat? x = some b) :
    b = if exponentBits x = 0 then ⟨isNegative x, fractionBits x, -1074⟩
      else ⟨isNegative x, twoTo 52 + fractionBits x, (exponentBits x : Int) - 1075⟩ := by
  rw [Binary.ofFloat?] at h
  split_ifs at h ⊢ <;> exact (Option.some.inj h).symm

theorem negative_of_ofFloat? {x : Float} {b : Binary} (h : Binary.ofFloat? x = some b) : b.negative = isNegative x := by
  rw [eq_of_ofFloat?_eq_some h]
  split_ifs <;> rfl

/-- the magnitude as a quotient of whole numbers -/
theorem Binary.ratio_eq (b : Binary) : (b.ratio.1 : ℚ) / b.ratio.2 = b.mantissa * 2 ^ b.exponent := by
  rw [zpow_eq_ratio, ratio]
  push_cast
  rw [mul_div_assoc]

/-- the magnitude rounded down is the floor of the value -/
theorem Binary.floor_value {b : Binary} (h : b.negative = false) : ⌊b.value⌋ = (b.floor : Int) := by
  have hvalue : b.value = (b.ratio.1 : ℚ) / (b.ratio.2 : ℚ) := by
    rw [value, h, ratio_eq, if_neg Bool.false_ne_true, one_mul]
  rw [hvalue, floor]
  exact_mod_cast Rat.floor_natCast_div_natCast b.ratio.1 b.ratio.2

/-! ## Positive numbers -/

theorem toNat_unpackSign (bits : UInt64) :
    (@UnpackedFloat.unpackSign .binary64 bits.toBitVec).toNat = bits.toNat / twoTo 63 := by
  have htop : @UnpackedFloat.unpackSign .binary64 bits.toBitVec = bits.toBitVec.extractLsb 63 63 := rfl
  have hlt : bits.toNat / twoTo 63 < 2 := Nat.div_lt_of_lt_mul bits.toNat_lt
  rw [htop, BitVec.extractLsb_toNat, Nat.shiftRight_eq_div_pow]
  exact Nat.mod_eq_of_lt hlt

theorem toNat_unpackExponent (bits : UInt64) :
    (@UnpackedFloat.unpackExponent .binary64 bits.toBitVec).toNat = bits.toNat / twoTo 52 % twoTo 11 := by
  simp [UnpackedFloat.unpackExponent, BitVec.extractLsb, Nat.shiftRight_eq_div_pow, twoTo]

theorem toNat_unpackMantissa (bits : UInt64) :
    (@UnpackedFloat.unpackMantissa .binary64 bits.toBitVec).toNat = bits.toNat % twoTo 52 := by
  simp [UnpackedFloat.unpackMantissa, BitVec.extractLsb, twoTo]

theorem AboveZero.of_compare {u v : UnpackedFloat} {o : Ordering} (hu : AboveZero u) (h : u.compare v = some o)
    (ho : o.isLE = true) : AboveZero v := by
  cases v with
  | notANumber => cases hu <;> cases h
  | infinity s =>
    cases s with
    | positive => exact .infinity
    | negative => cases hu <;> cases h <;> cases ho
  | zero s => cases hu <;> cases h <;> cases ho
  | finite s m e hm =>
    cases s with
    | positive => exact .finite hm
    | negative => cases hu <;> cases h <;> cases ho

/-- what reaches a positive number is positive -/
theorem pos_of_ge_pos {x y : Float} (hy : y > 0.0) (h : x ≥ y) : x > 0.0 := by
  obtain ⟨o, ho, hle⟩ := le_iff_compare.1 h
  exact pos_iff_aboveZero.2 ((pos_iff_aboveZero.1 hy).of_compare ho hle)

theorem AboveZero.parts {spec : Format} {b : BitVec spec.numBits} (h : AboveZero (UnpackedFloat.unpack spec b)) :
    UnpackedFloat.unpackSign b = 0#1 ∧
      (UnpackedFloat.unpackExponent b = -1#_ → UnpackedFloat.unpackMantissa b = 0#_) := by
  have hsign : ∀ u : BitVec 1, UnpackedFloat.Sign.ofBitVec u = .positive → u = 0#1 := by
    intro u hu
    by_contra hne
    rw [UnpackedFloat.Sign.ofBitVec, if_neg hne] at hu
    cases hu
  unfold UnpackedFloat.unpack at h
  by_cases hlast : UnpackedFloat.unpackExponent b = -1#_
  · rw [if_pos hlast] at h
    by_cases hm : UnpackedFloat.unpackMantissa b = 0#_
    · rw [if_pos hm] at h
      generalize hs : UnpackedFloat.Sign.ofBitVec (UnpackedFloat.unpackSign b) = s at h
      cases h
      exact ⟨hsign _ hs, fun _ => hm⟩
    · rw [if_neg hm] at h
      cases h
  refine ⟨hsign _ ?_, fun h => absurd h hlast⟩
  rw [if_neg hlast] at h
  by_cases he : UnpackedFloat.unpackExponent b = 0#_
  · rw [if_pos he] at h
    by_cases hm : UnpackedFloat.unpackMantissa b = 0#_
    · rw [dif_pos hm] at h
      cases h
    · rw [dif_neg hm] at h
      generalize UnpackedFloat.Sign.ofBitVec (UnpackedFloat.unpackSign b) = s at h
      cases h
      rfl
  · rw [if_neg he] at h
    generalize UnpackedFloat.Sign.ofBitVec (UnpackedFloat.unpackSign b) = s at h
    cases h
    rfl

theorem not_isNegative_of_pos {x : Float} (h : x > 0.0) : isNegative x = false := by
  have hsign : (0#1).toNat = x.toBits.toNat / twoTo 63 := by
    rw [← toNat_unpackSign]
    exact congrArg BitVec.toNat (pos_iff_aboveZero.1 h).parts.1.symm
  simp [isNegative, ← hsign]

theorem not_isNaN_of_pos {x : Float} (h : x > 0.0) : isNaN x = false := by
  have hparts := (pos_iff_aboveZero.1 h).parts.2
  rw [isNaN, decide_eq_false_iff_not]
  rintro ⟨hexponent, hfraction⟩
  have hlast : @UnpackedFloat.unpackExponent .binary64 x.toBits.toBitVec = -1#11 :=
    BitVec.eq_of_toNat_eq ((toNat_unpackExponent x.toBits).trans hexponent)
  exact hfraction ((toNat_unpackMantissa x.toBits).symm.trans (congrArg BitVec.toNat (hparts hlast)))

/-! ## Whole numbers of 64 bits -/

/-- a positive number is cut to the floor of its value as far as the 64-bit integers go, and to the greatest of them if it
is infinite -/
theorem toIntWithin64_of_pos {x : Float} (h : x > 0.0) :
    toIntWithin64 x = ((value? x).map fun q => min ⌊q⌋ (2 ^ 63 - 1)).getD (2 ^ 63 - 1) := by
  have hhigh : ((twoTo 63 : Nat) : Int) = 2 ^ 63 := rfl
  rw [toIntWithin64, value?]
  cases hb : Binary.ofFloat? x with
  | none => simp [not_isNaN_of_pos h, not_isNegative_of_pos h, hhigh]
  | some b =>
    have hnegative : b.negative = false := (negative_of_ofFloat? hb).trans (not_isNegative_of_pos h)
    have hfloor := Binary.floor_value hnegative
    simp only [hnegative, Option.map_some, Option.getD_some, hfloor, hhigh, Bool.false_eq_true, if_false]
    omega

theorem toIntWithin64_of_lt {x : Float} (h : x > 0.0) {q : ℚ} (hq : value? x = some q) (hlt : q < 2 ^ 63) :
    toIntWithin64 x = ⌊q⌋ := by
  have hfloor : ⌊q⌋ < 2 ^ 63 := Int.floor_lt.2 (by exact_mod_cast hlt)
  rw [toIntWithin64_of_pos h, hq, Option.map_some, Option.getD_some]
  omega

theorem toIntWithin64_of_beyond {x : Float} (h : x > 0.0) (hbeyond : ∀ q, value? x = some q → 2 ^ 63 ≤ q) :
    toIntWithin64 x = 2 ^ 63 - 1 := by
  rw [toIntWithin64_of_pos h]
  cases hq : value? x with
  | none => rfl
  | some q =>
    have hfloor : 2 ^ 63 ≤ ⌊q⌋ := Int.le_floor.2 (by exact_mod_cast hbeyond q hq)
    rw [Option.map_some, Option.getD_some]
    omega

end Benchwork.Number
