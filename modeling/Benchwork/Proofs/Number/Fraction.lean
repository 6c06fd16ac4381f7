/-
Whole part and fraction.

Cutting the bits below the ones leaves the whole part of a number (`exists_parts_truncate`). What is then left of the
number is its fraction, without any error (`value?_abs_sub_truncate`), and the comparison with the number nearest to a
billionth decides about a billionth itself (`lt_billionth_iff`).
-/
import Mathlib.Data.Nat.Bitwise
import Mathlib.Tactic
import Benchwork.Proofs.Number.Arithmetic

namespace Benchwork.Number

open Float.Model Float.Model.UnpackedFloat

/-! ## Bits -/

/-- the parts of a number that is given by its bits -/
theorem ofFloat?_ofBits (bits : UInt64) (h : bits.toNat / twoTo 52 % twoTo 11 ≠ 2047) :
    Binary.ofFloat? (Float.ofBits bits) =
      if bits.toNat / twoTo 52 % twoTo 11 = 0 then
        some ⟨decide (bits.toNat / twoTo 63 = 1), bits.toNat % twoTo 52, -1074⟩
      else some ⟨decide (bits.toNat / twoTo 63 = 1), 2 ^ 52 + bits.toNat % twoTo 52,
        ((bits.toNat / twoTo 52 % twoTo 11 : Nat) : Int) - 1075⟩ := by
  have hfinite : (@unpackExponent .binary64 bits.toBitVec).toNat ≠ 2047 := by rwa [toNat_unpackExponent]
  have hunpack : (Float.ofBits bits).toModel.unpack = UnpackedFloat.unpack .binary64 bits.toBitVec :=
    (fit_unpack _ hfinite).unpack_pack
  rw [ofFloat?_eq, hunpack, binary?_unpack, if_neg hfinite, toNat_unpackExponent, toNat_unpackSign, toNat_unpackMantissa]

section Cutting

variable (n d : Nat) {c : Nat}

/-- clearing the last bits keeps the bits above them -/
theorem cut_div (hc : 0 < c) : n / c * c / (c * d) = n / (c * d) := by
  rw [mul_comm (n / c), Nat.mul_div_mul_left _ _ hc, Nat.div_div_eq_div_mul]

theorem cut_mod : n / c * c % (c * d) = n % (c * d) / c * c := by
  rw [mul_comm (n / c), Nat.mul_mod_mul_left, Nat.mod_mul_right_div_self, mul_comm c]

end Cutting

section Truncating

variable {x : Float}

/-- below one only the sign is kept -/
theorem ofFloat?_truncate_of_lt (h : exponentBits x < 1023) :
    Binary.ofFloat? (truncate x) = some ⟨isNegative x, 0, -1074⟩ := by
  have hsign : x.toBits.toNat / 2 ^ 63 < 2 := Nat.div_lt_of_lt_mul x.toBits.toNat_lt
  have hbits : (x.toBits &&& 0x8000000000000000).toNat = x.toBits.toNat / 2 ^ 63 * 2 ^ 63 := by
    rw [UInt64.toNat_and]
    change x.toBits.toNat &&& 2 ^ 63 = _
    rw [Nat.and_two_pow, Nat.toNat_testBit, Nat.mod_eq_of_lt hsign]
  have hexponent : x.toBits.toNat / 2 ^ 63 * 2 ^ 63 / twoTo 52 % twoTo 11 = 0 := by
    change x.toBits.toNat / 2 ^ 63 * 2 ^ 63 / 2 ^ 52 % 2 ^ 11 = 0
    omega
  have hfraction : x.toBits.toNat / 2 ^ 63 * 2 ^ 63 % twoTo 52 = 0 := by
    change x.toBits.toNat / 2 ^ 63 * 2 ^ 63 % 2 ^ 52 = 0
    omega
  have htop : x.toBits.toNat / 2 ^ 63 * 2 ^ 63 / twoTo 63 = x.toBits.toNat / twoTo 63 :=
    Nat.mul_div_cancel _ (by positivity)
  rw [truncate, if_neg (by omega), if_pos h, ofFloat?_ofBits _ (by rw [hbits, hexponent]; norm_num), hbits, hexponent,
    hfraction, htop, if_pos rfl]
  rfl

/-- from one on the bits below the ones are cleared -/
theorem ofFloat?_truncate_of_ge (h : 1023 ≤ exponentBits x) (h' : exponentBits x < 1075) :
    Binary.ofFloat? (truncate x) =
      some ⟨isNegative x, (2 ^ 52 + fractionBits x) / 2 ^ (1075 - exponentBits x) * 2 ^ (1075 - exponentBits x),
        (exponentBits x : Int) - 1075⟩ := by
  obtain ⟨k, hk⟩ : ∃ k, k = 1075 - exponentBits x := ⟨_, rfl⟩
  have hpos : 0 < 2 ^ k := by positivity
  have hsplit : ∀ n, k ≤ n → twoTo n = 2 ^ k * 2 ^ (n - k) := fun n hn => by
    rw [← pow_add, Nat.add_sub_cancel' hn]
    rfl
  have hbits : (UInt64.ofNat (x.toBits.toNat / 2 ^ k * 2 ^ k)).toNat = x.toBits.toNat / 2 ^ k * 2 ^ k :=
    UInt64.toNat_ofNat_of_lt' ((Nat.div_mul_le_self _ _).trans_lt x.toBits.toNat_lt)
  have hexponent : x.toBits.toNat / 2 ^ k * 2 ^ k / twoTo 52 % twoTo 11 = exponentBits x := by
    rw [exponentBits, hsplit 52 (by omega), cut_div _ _ hpos]
  have hsign : x.toBits.toNat / 2 ^ k * 2 ^ k / twoTo 63 = x.toBits.toNat / twoTo 63 := by
    rw [hsplit 63 (by omega), cut_div _ _ hpos]
  have hfraction : x.toBits.toNat / 2 ^ k * 2 ^ k % twoTo 52 = fractionBits x / 2 ^ k * 2 ^ k := by
    rw [fractionBits, hsplit 52 (by omega), cut_mod]
  have hmantissa : 2 ^ 52 + fractionBits x / 2 ^ k * 2 ^ k = (2 ^ 52 + fractionBits x) / 2 ^ k * 2 ^ k := by
    have hfull : 2 ^ 52 = 2 ^ k * 2 ^ (52 - k) := hsplit 52 (by omega)
    rw [hfull, Nat.mul_add_div hpos, add_mul, mul_comm (2 ^ k)]
  rw [truncate, if_neg (by omega), if_neg (by omega), ← hk]
  dsimp only
  change Binary.ofFloat? (Float.ofBits (UInt64.ofNat (x.toBits.toNat / 2 ^ k * 2 ^ k))) = _
  rw [ofFloat?_ofBits _ (by rw [hbits, hexponent]; omega), hbits, hexponent, hsign, hfraction, hmantissa, if_neg (by omega)]
  rfl

/-! ## Whole parts -/

/-- a negative power of two as a quotient -/
theorem mul_zpow_neg (m k : Nat) : (m : ℚ) * 2 ^ (-(k : Int)) = (m : ℚ) / (2 ^ k : Nat) := by
  rw [zpow_neg, zpow_natCast, ← div_eq_mul_inv, Nat.cast_pow, Nat.cast_ofNat]

theorem floor_mul_zpow_neg (m k : Nat) : ⌊(m : ℚ) * 2 ^ (-(k : Int))⌋ = ((m / 2 ^ k : Nat) : Int) := by
  rw [mul_zpow_neg, Rat.floor_natCast_div_natCast, Int.natCast_ediv]

theorem floor_mul_zpow (m k : Nat) : ((⌊(m : ℚ) * 2 ^ (k : Int)⌋ : Int) : ℚ) = m * 2 ^ (k : Int) := by
  have hwhole : (m : ℚ) * 2 ^ (k : Int) = (m * 2 ^ k : Nat) := by
    rw [zpow_natCast]
    push_cast
    rfl
  rw [hwhole, Int.floor_natCast, Int.cast_natCast]

/-- the magnitude is below one if its first bit is -/
theorem floor_eq_zero_of_lt {b : Binary} (h : Binary.ofFloat? x = some b) (hsmall : exponentBits x < 1023) :
    ⌊(b.mantissa : ℚ) * 2 ^ b.exponent⌋ = 0 := by
  have hb := eq_of_ofFloat?_eq_some h
  have hfraction : fractionBits x < 2 ^ 52 := Nat.mod_lt _ (by decide)
  obtain ⟨k, hk, hlt⟩ : ∃ k : Nat, b.exponent = -(k : Int) ∧ b.mantissa < 2 ^ k := by
    by_cases hzero : exponentBits x = 0
    · rw [if_pos hzero] at hb
      rw [hb]
      have hpow : 2 ^ 52 ≤ 2 ^ (-(-1074 : Int)).toNat := Nat.pow_le_pow_right (by norm_num) (by decide)
      exact ⟨(-(-1074 : Int)).toNat, rfl, lt_of_lt_of_le hfraction hpow⟩
    · rw [if_neg hzero] at hb
      rw [hb]
      have hlt : 2 ^ 52 + fractionBits x < 2 ^ 53 := by omega
      refine ⟨1075 - exponentBits x, ?_, hlt.trans_le (Nat.pow_le_pow_right (by norm_num) (by omega))⟩
      change (exponentBits x : Int) - 1075 = _
      omega
  rw [hk, floor_mul_zpow_neg, Nat.div_eq_of_lt hlt, Nat.cast_zero]

/-- cutting keeps the sign and leaves the whole part of the magnitude -/
theorem exists_parts_truncate {b : Binary} (h : Binary.ofFloat? x = some b) :
    ∃ b', Binary.ofFloat? (truncate x) = some b' ∧ b'.negative = b.negative ∧
      (b'.mantissa : ℚ) * 2 ^ b'.exponent = ⌊(b.mantissa : ℚ) * 2 ^ b.exponent⌋ := by
  rcases Nat.lt_or_ge (exponentBits x) 1023 with hsmall | hone
  · refine ⟨_, ofFloat?_truncate_of_lt hsmall, (negative_of_ofFloat? h).symm, ?_⟩
    rw [floor_eq_zero_of_lt h hsmall]
    simp
  have hb := eq_of_ofFloat?_eq_some h
  rw [if_neg (by omega)] at hb
  rcases Nat.lt_or_ge (exponentBits x) 1075 with hmiddle | hlarge
  · refine ⟨_, ofFloat?_truncate_of_ge hone hmiddle, by rw [hb], ?_⟩
    have hk : (exponentBits x : Int) - 1075 = -((1075 - exponentBits x : Nat) : Int) := by omega
    rw [hb]
    dsimp only
    rw [hk, floor_mul_zpow_neg, mul_zpow_neg, Nat.cast_mul, mul_div_assoc, div_self (by positivity), mul_one,
      Int.cast_natCast]
    rfl
  · refine ⟨b, by rw [truncate, if_pos hlarge, h], rfl, ?_⟩
    have hk : b.exponent = ((exponentBits x - 1075 : Nat) : Int) := by
      rw [hb]
      change (exponentBits x : Int) - 1075 = _
      omega
    rw [hk, floor_mul_zpow]

/-! ## Fractions -/

/-- the fraction of a magnitude with 53 bits has 53 bits -/
theorem representable_fract {m : Nat} {e : Int} (hlt : m < 2 ^ 53) (hleast : -1074 ≤ e) :
    Representable (Int.fract ((m : ℚ) * 2 ^ e)) := by
  rcases Int.eq_nat_or_neg e with ⟨k, rfl | rfl⟩
  · have hzero : Int.fract ((m : ℚ) * 2 ^ (k : Int)) = 0 := by
      rw [Int.fract, floor_mul_zpow, sub_self]
    rw [hzero]
    exact ⟨0, 0, by simp, by norm_num, by norm_num, by norm_num⟩
  · refine ⟨m % 2 ^ k, -k, ?_, (Nat.mod_le _ _).trans_lt hlt, hleast, by omega⟩
    rw [abs_of_nonneg (Int.fract_nonneg _), mul_zpow_neg, mul_zpow_neg, Int.fract_div_natCast_eq_div_natCast_mod]

theorem Shows.abs {u : UnpackedFloat} {negative : Bool} {q : ℚ} (h : Shows u negative q) : Shows u.abs false |q| := by
  cases h with
  | zero s =>
    rw [abs_zero]
    exact .zero .positive
  | finite s h =>
    have hshows := Shows.finite .positive h
    rw [factor_positive, ← (factor_mul_abs (s := s) rfl).1] at hshows
    exact hshows

theorem value?_abs {q : ℚ} (h : value? x = some q) : value? x.abs = some |q| := (shows_unpack h).abs.pack.1

theorem Representable.of_abs_eq {p q : ℚ} (hq : Representable q) (h : |p| = |q|) : Representable p := by
  obtain ⟨m, e, hvalue, hbounds⟩ := hq
  exact ⟨m, e, h.trans hvalue, hbounds⟩

/-- what cutting leaves over is the fraction, without any error -/
theorem value?_abs_sub_truncate {q : ℚ} (h : value? x = some q) :
    value? (x - truncate x).abs = some (Int.fract |q|) := by
  obtain ⟨b, hb, -, hvalue, hcanonical⟩ := exists_parts h
  obtain ⟨b', hb', hsame, hwhole⟩ := exists_parts_truncate hb
  obtain ⟨sign, hsign⟩ : ∃ sign : ℚ, sign = if b.negative then -1 else 1 := ⟨_, rfl⟩
  have hunit : |sign| = 1 := by
    rw [hsign]
    split_ifs <;> simp
  have hq : q = sign * |q| := by
    rw [hvalue, hsign]
    exact Option.some.inj (h.symm.trans (value?_of_ofFloat? hb))
  have hcut : value? (truncate x) = some (sign * (⌊|q|⌋ : Int)) := by
    rw [value?, hb', hvalue, ← hwhole, hsign, ← hsame]
    rfl
  have hrest : |q - sign * (⌊|q|⌋ : Int)| = Int.fract |q| := by
    calc |q - sign * (⌊|q|⌋ : Int)| = |sign * Int.fract (|q|)| := by
          nth_rewrite 1 [hq]
          rw [Int.fract, mul_sub]
      _ = Int.fract |q| := by rw [abs_mul, hunit, one_mul, abs_of_nonneg (Int.fract_nonneg _)]
  have hfraction : Representable (Int.fract |q|) := by
    rw [hvalue]
    by_cases hzero : b.mantissa = 0
    · rw [hzero]
      simpa using representable_intCast (n := 0) (by norm_num)
    · exact representable_fract (hcanonical hzero).lt (hcanonical hzero).least
  have hrepresentable := hfraction.of_abs_eq (hrest.trans (abs_of_nonneg (Int.fract_nonneg _)).symm)
  rw [value?_abs (value?_sub h hcut hrepresentable).1, hrest]

/-! ## A billionth -/

theorem value?_billionth : value? 1e-9 = some (4835703278458517 * 2 ^ (-82 : Int)) := by
  have hparts : Binary.ofFloat? 1e-9 = some ⟨false, 4835703278458517, -82⟩ := by decide +kernel
  rw [value?, hparts, Option.map_some, Binary.value]
  norm_num

/-- no number is between a billionth and the number nearest to it -/
theorem lt_billionth_iff {q : ℚ} (h : value? x = some q) (hq : 0 ≤ q) : x < 1e-9 ↔ q < 1 / 10 ^ 9 := by
  rw [lt_iff_value_lt h value?_billionth]
  constructor
  · intro hlt
    obtain ⟨b, -, -, hvalue, hcanonical⟩ := exists_parts h
    rw [abs_of_nonneg hq] at hvalue
    by_cases hzero : b.mantissa = 0
    · rw [hvalue, hzero]
      norm_num
    have hb := hcanonical hzero
    have hleast : Canonical (2 ^ 52) (-82) := ⟨by norm_num, by norm_num, by norm_num, by norm_num, .inl le_rfl⟩
    have hnearest : Canonical 4835703278458517 (-82) :=
      ⟨by norm_num, by norm_num, by norm_num, by norm_num, .inl (by norm_num)⟩
    rw [hvalue] at hlt ⊢
    rcases lt_trichotomy b.exponent (-82) with he | he | he
    · have hbelow := hb.lt_of_exponent_lt hleast he
      exact hbelow.trans (by norm_num)
    · -- with the same exponent the mantissa is less by one at least
      rw [he] at hlt ⊢
      have hmantissa : b.mantissa < 4835703278458517 := by
        exact_mod_cast lt_of_mul_lt_mul_right hlt (by positivity)
      calc (b.mantissa : ℚ) * 2 ^ (-82 : Int) ≤ (4835703278458516 : Nat) * 2 ^ (-82 : Int) := by
            gcongr
            omega
        _ < 1 / 10 ^ 9 := by norm_num
    · have habove := hnearest.lt_of_exponent_lt hb he
      exact absurd hlt (by exact_mod_cast habove.not_gt)
  · intro hlt
    exact hlt.trans (by norm_num)

end Truncating

end Benchwork.Number
