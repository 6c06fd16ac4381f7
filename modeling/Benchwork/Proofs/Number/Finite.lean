/-
Zeros and finite numbers.

The numbers equal to zero are the two zeros (`beq_zero_iff`). The text of a finite number has digits, at most a point
and a sign in it, so it is never the text of an infinite one (`fixed_ne_inf`).
-/
import Mathlib.Tactic
import Benchwork.Number.Fixed

namespace Benchwork.Number

open Float.Model

/-! ## Zeros -/

theorem exists_of_compare_zero {u : UnpackedFloat} {s : UnpackedFloat.Sign}
    (h : u.compare (.zero s) = some .eq) : ∃ s', u = .zero s' := by
  cases u with
  | notANumber => cases h
  | infinity s' => cases s' <;> cases h
  | zero s' => exact ⟨s', rfl⟩
  | finite s' m e hm => cases s' <;> cases h

theorem parts_of_unpack_zero {spec : Format} {b : BitVec spec.numBits} {s : UnpackedFloat.Sign}
    (h : UnpackedFloat.unpack spec b = .zero s) :
    UnpackedFloat.unpackExponent b = 0#_ ∧ UnpackedFloat.unpackMantissa b = 0#_ := by
  unfold UnpackedFloat.unpack at h
  by_cases hlast : UnpackedFloat.unpackExponent b = -1#_
  · rw [if_pos hlast] at h
    by_cases hm : UnpackedFloat.unpackMantissa b = 0#_
    · rw [if_pos hm] at h
      cases h
    · rw [if_neg hm] at h
      cases h
  rw [if_neg hlast] at h
  by_cases he : UnpackedFloat.unpackExponent b = 0#_
  · rw [if_pos he] at h
    by_cases hm : UnpackedFloat.unpackMantissa b = 0#_
    · exact ⟨he, hm⟩
    · rw [dif_neg hm] at h
      cases h
  · rw [if_neg he] at h
    cases h

/-- in a zero only the sign bit may be set -/
theorem toBits_of_unpack_zero {m : Float.Model} {s : UnpackedFloat.Sign} (h : m.unpack = .zero s) :
    m.toBits = 0 ∨ m.toBits = 0x8000000000000000 := by
  obtain ⟨hexponent, hmantissa⟩ := parts_of_unpack_zero h
  have hm : m.toBits.toNat % 4503599627370496 = 0 := by
    simpa [UnpackedFloat.unpackMantissa, BitVec.extractLsb] using congrArg BitVec.toNat hmantissa
  have he : m.toBits.toNat / 4503599627370496 % 2048 = 0 := by
    simpa [UnpackedFloat.unpackExponent, BitVec.extractLsb, Nat.shiftRight_eq_div_pow] using
      congrArg BitVec.toNat hexponent
  have hlt := m.toBits.toNat_lt
  have hbits : m.toBits.toNat = 0 ∨ m.toBits.toNat = 9223372036854775808 := by omega
  exact hbits.imp (fun h => UInt64.toNat_inj.1 h) fun h => UInt64.toNat_inj.1 h

theorem eq_of_toBits_eq {x y : Float} (h : x.toModel.toBits = y.toModel.toBits) : x = y := by
  obtain ⟨⟨bits, hx⟩⟩ := x
  obtain ⟨⟨bits', hy⟩⟩ := y
  obtain rfl : bits = bits' := h
  rfl

/-- the numbers equal to zero are the two zeros -/
theorem beq_zero_iff (x : Float) : (x == 0.0) = true ↔ x = 0.0 ∨ x = -0.0 := by
  constructor
  · intro h
    have hcompare : x.toModel.unpack.compare (.zero .positive) = some .eq := by
      have hzero : (0.0 : Float).toModel.unpack = .zero .positive := by rfl
      rw [← hzero]
      exact eq_of_beq h
    obtain ⟨s, hs⟩ := exists_of_compare_zero hcompare
    refine (toBits_of_unpack_zero hs).imp (fun h => eq_of_toBits_eq ?_) fun h => eq_of_toBits_eq ?_
    · rw [h]
      decide +kernel
    · rw [h]
      decide +kernel
  · rintro (rfl | rfl)
    · decide +kernel
    · decide +kernel

/-! ## Texts of finite numbers -/

theorem ofFloat?_of_isFinite {x : Float} (h : isFinite x = true) : ∃ b, Binary.ofFloat? x = some b := by
  have hbits : exponentBits x ≠ 2047 := by simpa [isFinite] using h
  unfold Binary.ofFloat?
  rw [if_neg hbits]
  split_ifs with hzero
  · exact ⟨_, rfl⟩
  · exact ⟨_, rfl⟩

theorem mem_positional {d : Decimal} {c : Char} (h : c ∈ positional d) : c = '.' ∨ c.isDigit = true := by
  have hdigits : ∀ c ∈ Nat.toDigits 10 d.digits, c.isDigit = true := fun c hc =>
    Nat.isDigit_of_mem_toDigits (by decide) (by decide) hc
  have hzeros : ∀ n, ∀ c ∈ List.replicate n '0', c.isDigit = true := fun n c hc => by
    rw [List.eq_of_mem_replicate hc]
    rfl
  have happend : ∀ n, ∀ c ∈ List.replicate n '0' ++ Nat.toDigits 10 d.digits, c.isDigit = true := fun n c hc =>
    (List.mem_append.1 hc).elim (hzeros n c) (hdigits c)
  unfold positional at h
  dsimp only at h
  split_ifs at h with hexponent
  · rcases List.mem_append.1 h with h | h
    · exact .inr (hdigits c h)
    · exact .inr (hzeros _ c h)
  · rcases List.mem_append.1 h with h | h
    · exact .inr (happend _ c (List.mem_of_mem_take h))
    · rcases List.mem_cons.1 h with rfl | h
      · exact .inl rfl
      · exact .inr (happend _ c (List.mem_of_mem_drop h))

theorem fixed_ne_inf {x : Float} (h : isFinite x = true) (places : Nat) : fixed places x ≠ "inf" := by
  obtain ⟨b, hb⟩ := ofFloat?_of_isFinite h
  intro heq
  have hmem : 'i' ∈ (fixed places x).toList := by
    rw [heq]
    decide
  rw [fixed, signed, hb, String.toList_ofList] at hmem
  rcases List.mem_append.1 hmem with hsign | hdigits
  · cases hn : b.negative <;> simp [hn] at hsign
  · rcases mem_positional hdigits with hpoint | hdigit
    · cases hpoint
    · cases hdigit

end Benchwork.Number
