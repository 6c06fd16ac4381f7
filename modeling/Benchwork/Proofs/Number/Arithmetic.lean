/-
Exact arithmetic.

`Shows` ties an unpacked number to its sign and its value. The value of a `Float` is that of its unpacked form
(`shows_unpack`, `Shows.pack`), and it is all that comparisons look at (`lt_iff_value_lt`, `le_iff_value_le`).

A value with at most 53 bits is `Representable`. Differences and products whose value is representable are exact
(`value?_sub`, `value?_mul`), and so are whole numbers of 53 bits (`value?_ofNat`). A sum that comes to infinity stays there
(`add_infinity_of_add`).
-/
import Mathlib.Tactic
import Benchwork.Proofs.Number.Rounding

namespace Benchwork.Number

open Float.Model Float.Model.UnpackedFloat

/-! ## Values of unpacked numbers -/

/-- the factor that a sign stands for -/
def factor (s : Sign) : ℚ := if isMinus s then -1 else 1

theorem factor_positive (q : ℚ) : factor .positive * q = q := by simp [factor, isMinus]

theorem factor_negative (q : ℚ) : factor .negative * q = -q := by simp [factor, isMinus]

/-- a finite number in the form for packing, its sign and its value -/
inductive Shows : UnpackedFloat → Bool → ℚ → Prop
  | zero (s : Sign) : Shows (.zero s) (isMinus s) 0
  | finite (s : Sign) {m : Nat} {e : Int} (h : Canonical m e) :
    Shows (.finite s m e h.pos) (isMinus s) (factor s * (m * 2 ^ e))

theorem ofFloat?_eq (x : Float) : Binary.ofFloat? x = binary? x.toModel.unpack := by
  rw [Float.Model.unpack, binary?_unpack, toNat_unpackExponent, toNat_unpackSign, toNat_unpackMantissa]
  rfl

theorem Fit.shows {u : UnpackedFloat} (h : Fit u) : ∃ b, binary? u = some b ∧ Shows u b.negative b.value := by
  cases h with
  | zero s =>
    refine ⟨_, rfl, ?_⟩
    have hvalue : Binary.value ⟨isMinus s, 0, -1074⟩ = 0 := by simp [Binary.value]
    rw [hvalue]
    exact .zero s
  | finite s h => exact ⟨_, rfl, .finite s h⟩

theorem Shows.fit {u : UnpackedFloat} {negative : Bool} {q : ℚ} (h : Shows u negative q) : Fit u := by
  cases h with
  | zero s => exact .zero s
  | finite s h => exact .finite s h

theorem Shows.unique {u : UnpackedFloat} {a b : Bool} {p q : ℚ} (h : Shows u a p) (h' : Shows u b q) : a = b ∧ p = q := by
  cases h with
  | zero s => cases h'; exact ⟨rfl, rfl⟩
  | finite s h => cases h'; exact ⟨rfl, rfl⟩

/-- a finite `Float` has the sign and the value of its unpacked form -/
theorem shows_unpack {x : Float} {q : ℚ} (h : value? x = some q) : Shows x.toModel.unpack (isNegative x) q := by
  obtain ⟨b, hb, rfl⟩ := Option.map_eq_some_iff.1 h
  have hnegative : b.negative = isNegative x := negative_of_ofFloat? hb
  have hlast : (@unpackExponent .binary64 x.toBits.toBitVec).toNat ≠ 2047 := by
    rw [toNat_unpackExponent]
    intro hlast
    rw [Binary.ofFloat?, if_pos (show exponentBits x = 2047 from hlast)] at hb
    cases hb
  obtain ⟨b', hb', hshows⟩ := (fit_unpack _ hlast).shows
  obtain rfl : b' = b := Option.some.inj (hb'.symm.trans ((ofFloat?_eq x).symm.trans hb))
  rw [← hnegative]
  exact hshows

theorem value?_of_shows {x : Float} {negative : Bool} {q : ℚ} (h : Shows x.toModel.unpack negative q) :
    value? x = some q ∧ isNegative x = negative := by
  obtain ⟨b, hb, hshows⟩ := h.fit.shows
  have hvalue := value?_of_ofFloat? ((ofFloat?_eq x).trans hb)
  have hown := shows_unpack hvalue
  rw [hvalue, (hown.unique h).2]
  exact ⟨rfl, (hown.unique h).1⟩

/-- packing keeps the sign and the value -/
theorem Shows.pack {u : UnpackedFloat} {negative : Bool} {q : ℚ} (h : Shows u negative q) :
    value? (.ofModel (Float.Model.pack u)) = some q ∧ isNegative (.ofModel (Float.Model.pack u)) = negative :=
  value?_of_shows (by rw [h.fit.unpack_pack]; exact h)

/-! ## Comparisons -/

theorem Canonical.value_pos {m : Nat} {e : Int} (h : Canonical m e) : (0 : ℚ) < m * 2 ^ e := by
  have hm : (0 : ℚ) < m := by exact_mod_cast h.pos
  positivity

theorem compare_neg_neg (p q : ℚ) : compare (-p) (-q) = (compare p q).swap := by
  rcases lt_trichotomy p q with h | rfl | h
  · rw [compare_lt_iff_lt.2 h, compare_gt_iff_gt.2 (neg_lt_neg h)]
    rfl
  · rw [compare_eq_iff_eq.2 rfl, compare_eq_iff_eq.2 rfl]
    rfl
  · rw [compare_gt_iff_gt.2 h, compare_lt_iff_lt.2 (neg_lt_neg h)]
    rfl

/-- numbers are compared by their values -/
theorem Shows.compare_eq {u v : UnpackedFloat} {a b : Bool} {p q : ℚ} (hu : Shows u a p) (hv : Shows v b q) :
    u.compare v = some (compare p q) := by
  cases hu with
  | zero s =>
    cases hv with
    | zero t =>
      rw [compare_eq_iff_eq.2 rfl]
      rfl
    | finite t ht =>
      cases t with
      | positive =>
        rw [factor_positive, compare_lt_iff_lt.2 ht.value_pos]
        rfl
      | negative =>
        rw [factor_negative, compare_gt_iff_gt.2 (neg_neg_of_pos ht.value_pos)]
        rfl
  | finite s hs =>
    cases hv with
    | zero t =>
      cases s with
      | positive =>
        rw [factor_positive, compare_gt_iff_gt.2 hs.value_pos]
        rfl
      | negative =>
        rw [factor_negative, compare_lt_iff_lt.2 (neg_neg_of_pos hs.value_pos)]
        rfl
    | finite t ht =>
      cases s <;> cases t
      · -- both are negative, so the greater magnitude is the lesser number
        rw [factor_negative, factor_negative, compare_neg_neg, ← hs.compare_eq ht]
        rfl
      · rw [factor_negative, factor_positive, compare_lt_iff_lt.2 ((neg_neg_of_pos hs.value_pos).trans ht.value_pos)]
        rfl
      · rw [factor_positive, factor_negative, compare_gt_iff_gt.2 ((neg_neg_of_pos ht.value_pos).trans hs.value_pos)]
        rfl
      · rw [factor_positive, factor_positive, ← hs.compare_eq ht]
        rfl

section Values

variable {x y : Float} {p q : ℚ}

theorem lt_iff_value_lt (hx : value? x = some p) (hy : value? y = some q) : x < y ↔ p < q := by
  rw [lt_iff_compare, (shows_unpack hx).compare_eq (shows_unpack hy), Option.some_inj, compare_lt_iff_lt]

theorem le_iff_value_le (hx : value? x = some p) (hy : value? y = some q) : x ≤ y ↔ p ≤ q := by
  rw [le_iff_compare, (shows_unpack hx).compare_eq (shows_unpack hy), ← compare_le_iff_le]
  cases compare p q <;> simp [Ordering.isLE]

end Values

/-! ## Representable values -/

/-- a value with at most 53 bits -/
def Representable (q : ℚ) : Prop := ∃ (m : Nat) (e : Int), |q| = m * 2 ^ e ∧ m < 2 ^ 53 ∧ -1074 ≤ e ∧ e ≤ 971

theorem Representable.exists_canonical {q : ℚ} (h : Representable q) (hq : q ≠ 0) :
    ∃ m e, Canonical m e ∧ |q| = m * 2 ^ e := by
  obtain ⟨m, e, hvalue, hlt, hleast, hgreatest⟩ := h
  have hpos : 0 < m := by
    rw [Nat.pos_iff_ne_zero]
    rintro rfl
    exact hq (abs_eq_zero.1 (by simpa using hvalue))
  obtain ⟨m', e', hcanonical, hsame⟩ := Number.exists_canonical hpos hlt hleast hgreatest
  exact ⟨m', e', hcanonical, hvalue.trans hsame⟩

theorem representable_intCast {n : Int} (h : |n| < 2 ^ 53) : Representable n := by
  rw [Int.abs_eq_natAbs] at h
  refine ⟨n.natAbs, 0, ?_, by omega, by norm_num, by norm_num⟩
  rw [zpow_zero, mul_one, Nat.cast_natAbs, Int.cast_abs]

theorem factor_mul_abs {s : Sign} {m : Nat} {e : Int} {q : ℚ} (h : factor s * (m * 2 ^ e) = q) :
    |q| = m * 2 ^ e ∧ factor s * |q| = q := by
  have hpos : (0 : ℚ) ≤ m * 2 ^ e := by positivity
  have habs : |q| = m * 2 ^ e := by
    cases s with
    | positive => rw [← h, factor_positive, abs_of_nonneg hpos]
    | negative => rw [← h, factor_negative, abs_neg, abs_of_nonneg hpos]
  exact ⟨habs, habs ▸ h⟩

/-- sign, mantissa and exponent of a number with a value -/
theorem exists_parts {x : Float} {q : ℚ} (h : value? x = some q) :
    ∃ b, Binary.ofFloat? x = some b ∧ b.negative = isNegative x ∧ |q| = b.mantissa * 2 ^ b.exponent ∧
      (b.mantissa ≠ 0 → Canonical b.mantissa b.exponent) := by
  have hshows := shows_unpack h
  rw [ofFloat?_eq]
  generalize x.toModel.unpack = u at hshows
  generalize isNegative x = negative at hshows
  cases hshows with
  | zero s => exact ⟨_, rfl, rfl, by simp, fun hne => absurd rfl hne⟩
  | finite s hcanonical => exact ⟨_, rfl, rfl, (factor_mul_abs rfl).1, fun _ => hcanonical⟩

/-- what is representable is rounded to itself -/
theorem shows_round (s : Sign) {m : Nat} {e : Int} {q : ℚ} (h : Representable q) (hq : q ≠ 0)
    (hvalue : factor s * (m * 2 ^ e) = q) : Shows (UnpackedFloat.round .binary64 s m e) (isMinus s) q := by
  obtain ⟨habs, hsigned⟩ := factor_mul_abs hvalue
  obtain ⟨m', e', hcanonical, hsame⟩ := h.exists_canonical hq
  rw [round_exact s hcanonical (habs.symm.trans hsame), ← hsigned, hsame]
  exact .finite s hcanonical

theorem shows_normalize {m e : Int} (h : Representable (m * 2 ^ e)) :
    Shows (UnpackedFloat.normalize .binary64 m e .positive) (decide (m < 0)) (m * 2 ^ e) := by
  have hpow : (2 : ℚ) ^ e ≠ 0 := zpow_ne_zero e two_ne_zero
  unfold UnpackedFloat.normalize
  rcases lt_trichotomy m 0 with hm | rfl | hm
  · have hq : (m : ℚ) * 2 ^ e ≠ 0 := mul_ne_zero (by exact_mod_cast hm.ne) hpow
    have hnat : ((-m).toNat : ℚ) = -m := by exact_mod_cast Int.toNat_of_nonneg (by omega : 0 ≤ -m)
    rw [compare_lt_iff_lt.2 hm, decide_eq_true hm]
    exact shows_round .negative h hq (by rw [factor_negative, hnat, neg_mul, neg_neg])
  · rw [compare_eq_iff_eq.2 rfl, Int.cast_zero, zero_mul, decide_eq_false (lt_irrefl 0)]
    exact .zero .positive
  · have hq : (m : ℚ) * 2 ^ e ≠ 0 := mul_ne_zero (by exact_mod_cast hm.ne') hpow
    have hnat : (m.toNat : ℚ) = m := by exact_mod_cast Int.toNat_of_nonneg hm.le
    rw [compare_gt_iff_gt.2 hm, decide_eq_false (by omega)]
    exact shows_round .positive h hq (by rw [factor_positive, hnat])

/-! ## Differences -/

theorem factor_neg (s : Sign) : factor (-s) = -factor s := by
  cases s with
  | positive => rfl
  | negative => exact (neg_neg 1).symm

/-- a mantissa for a smaller exponent, with its sign -/
theorem apply_decreaseExponent (s : Sign) (m : Nat) {e e' : Int} (h : e' ≤ e) :
    ((s.apply (decreaseExponent m e e').1 : Int) : ℚ) * 2 ^ e' = factor s * (m * 2 ^ e) := by
  have hvalue : (((decreaseExponent m e e').1 : Nat) : ℚ) * 2 ^ e' = m * 2 ^ e := by
    rw [decreaseExponent, Nat.shiftLeft_eq]
    push_cast
    rw [mul_assoc, ← zpow_natCast, ← zpow_add₀ (by norm_num), Int.toNat_of_nonneg (by omega), sub_add_cancel]
  rw [← hvalue]
  cases s with
  | positive =>
    rw [factor_positive]
    rfl
  | negative =>
    change ((-((decreaseExponent m e e').1 : Int) : Int) : ℚ) * 2 ^ e' = _
    rw [factor_negative, Int.cast_neg, Int.cast_natCast, neg_mul]

theorem Shows.negative_eq {u : UnpackedFloat} {a : Bool} {p : ℚ} (h : Shows u a p) (hp : p ≠ 0) : a = decide (p < 0) := by
  cases h with
  | zero s => exact absurd rfl hp
  | finite s h =>
    cases s with
    | positive => rw [factor_positive, decide_eq_false h.value_pos.not_gt]; rfl
    | negative => rw [factor_negative, decide_eq_true (neg_neg_of_pos h.value_pos)]; rfl

/-- the difference is exact if it is representable; what is left of equal numbers is positive -/
theorem Shows.sub {u v : UnpackedFloat} {a b : Bool} {p q : ℚ} (hu : Shows u a p) (hv : Shows v b q)
    (h : Representable (p - q)) :
    ∃ negative, Shows (UnpackedFloat.sub .binary64 u v) negative (p - q) ∧ (q ≠ 0 → negative = decide (p < q)) := by
  cases hu with
  | zero s =>
    cases hv with
    | zero t =>
      rw [sub_zero]
      cases s <;> cases t
      · exact ⟨_, .zero .positive, fun hq => absurd rfl hq⟩
      · exact ⟨_, .zero .negative, fun hq => absurd rfl hq⟩
      · exact ⟨_, .zero .positive, fun hq => absurd rfl hq⟩
      · exact ⟨_, .zero .positive, fun hq => absurd rfl hq⟩
    | @finite t m e ht =>
      have hshows := Shows.finite (-t) ht
      rw [factor_neg, neg_mul] at hshows
      rw [zero_sub]
      refine ⟨_, hshows, fun hq => ?_⟩
      rw [hshows.negative_eq (neg_ne_zero.2 hq)]
      exact decide_eq_decide.2 neg_lt_zero
  | @finite s m e hs =>
    cases hv with
    | zero t =>
      rw [sub_zero]
      exact ⟨_, .finite s hs, fun hq => absurd rfl hq⟩
    | @finite t m' e' ht =>
      have hdifference : factor s * (m * 2 ^ e) - factor t * (m' * 2 ^ e') =
          ((s.apply (decreaseExponent m e (min e e')).1 - t.apply (decreaseExponent m' e' (min e e')).1 : Int) : ℚ) *
            2 ^ (min e e') := by
        rw [← apply_decreaseExponent s m (min_le_left e e'), ← apply_decreaseExponent t m' (min_le_right e e')]
        push_cast
        ring
      rw [hdifference] at h ⊢
      refine ⟨_, shows_normalize h, fun _ => decide_eq_decide.2 ?_⟩
      rw [← sub_neg (a := factor s * _), hdifference, mul_neg_iff]
      have hpow : (0 : ℚ) < 2 ^ (min e e') := by positivity
      simp only [hpow, hpow.not_gt, and_true, and_false, false_or]
      exact_mod_cast Iff.rfl

/-! ## Products -/

theorem factor_mul (s t : Sign) : factor (s * t) = factor s * factor t := by
  cases s <;> cases t
  · change (1 : ℚ) = -1 * -1
    norm_num
  · change (-1 : ℚ) = -1 * 1
    norm_num
  · change (-1 : ℚ) = 1 * -1
    norm_num
  · change (1 : ℚ) = 1 * 1
    norm_num

/-- the product of canonical mantissas has bits enough: its exponent is never above the one to aim at -/
theorem Canonical.add_exponent_le {m m' n : Nat} {e e' k : Int} (h : Canonical m e) (h' : Canonical m' e')
    (hn : Canonical n k) (hvalue : ((m * m' : Nat) : ℚ) * 2 ^ (e + e') = n * 2 ^ k) : e + e' ≤ k := by
  by_contra hlt
  have hpow : n = m * m' * 2 ^ (e + e' - k).toNat := eq_mul_pow_of_value_eq (by omega) hvalue.symm
  have htwice : 2 ≤ 2 ^ (e + e' - k).toNat := by
    calc 2 = 2 ^ 1 := by norm_num
      _ ≤ 2 ^ (e + e' - k).toNat := Nat.pow_le_pow_right (by norm_num) (by omega)
  have hsmall : m * m' * 2 < 2 ^ 53 := by
    calc m * m' * 2 ≤ n := by
          rw [hpow]
          exact Nat.mul_le_mul_left _ htwice
      _ < 2 ^ 53 := hn.lt
  -- neither mantissa is full, so both exponents are the least one
  have hm : ¬ 2 ^ 52 ≤ m := fun hfull => by nlinarith [h'.pos]
  have hm' : ¬ 2 ^ 52 ≤ m' := fun hfull => by nlinarith [h.pos]
  have he := h.full.resolve_left hm
  have he' := h'.full.resolve_left hm'
  have hk := hn.least
  omega

/-- the product is exact if it is representable -/
theorem Shows.mul {u v : UnpackedFloat} {a b : Bool} {p q : ℚ} (hu : Shows u a p) (hv : Shows v b q)
    (h : Representable (p * q)) : ∃ negative, Shows (UnpackedFloat.mul .binary64 u v) negative (p * q) := by
  cases hu with
  | zero s =>
    rw [zero_mul]
    cases hv with
    | zero t => exact ⟨_, .zero (s * t)⟩
    | finite t ht => exact ⟨_, .zero (s * t)⟩
  | @finite s m e hs =>
    cases hv with
    | zero t =>
      rw [mul_zero]
      exact ⟨_, .zero (s * t)⟩
    | @finite t m' e' ht =>
      have hproduct : factor (s * t) * ((m * m' : Nat) * 2 ^ (e + e')) =
          factor s * (m * 2 ^ e) * (factor t * (m' * 2 ^ e')) := by
        rw [factor_mul, zpow_add₀ (by norm_num)]
        push_cast
        ring
      obtain ⟨habs, hsigned⟩ := factor_mul_abs hproduct
      have hne : factor s * (m * 2 ^ e) * (factor t * (m' * 2 ^ e')) ≠ 0 := by
        rw [← abs_pos, habs]
        push_cast
        have hm : (0 : ℚ) < m := by exact_mod_cast hs.pos
        have hm' : (0 : ℚ) < m' := by exact_mod_cast ht.pos
        positivity
      obtain ⟨n, k, hcanonical, hsame⟩ := h.exists_canonical hne
      have hvalue := habs.symm.trans hsame
      have hround : UnpackedFloat.mul .binary64 (.finite s m e hs.pos) (.finite t m' e' ht.pos) =
          .finite (s * t) n k hcanonical.pos :=
        roundWithAccuracy_exact (s * t) hcanonical (hs.add_exponent_le ht hcanonical hvalue) hvalue
      rw [hround, ← hsigned, hsame]
      exact ⟨_, .finite (s * t) hcanonical⟩

/-! ## Infinite numbers -/

theorem unpack_add (x y : Float) : (x + y).toModel.unpack =
    (Float.Model.pack (UnpackedFloat.add .binary64 x.toModel.unpack y.toModel.unpack)).unpack := rfl

theorem unpack_pack_infinity (s : Sign) : (Float.Model.pack (.infinity s)).unpack = .infinity s := by
  cases s <;> rfl

/-- a number that comes to infinity when `v` is added stays there when it is added again -/
theorem add_infinity_of_add {u v : UnpackedFloat} {s : Sign} (hu : Fit u)
    (h : (Float.Model.pack (UnpackedFloat.add .binary64 u v)).unpack = .infinity s) :
    UnpackedFloat.add .binary64 (.infinity s) v = .infinity s := by
  cases v with
  | notANumber =>
    have hsum : UnpackedFloat.add .binary64 u .notANumber = .notANumber := by cases hu <;> rfl
    rw [hsum] at h
    cases h
  | infinity t =>
    have hsum : UnpackedFloat.add .binary64 u (.infinity t) = .infinity t := by cases hu <;> rfl
    rw [hsum, unpack_pack_infinity] at h
    obtain rfl : t = s := UnpackedFloat.infinity.inj h
    cases t <;> rfl
  | zero t => rfl
  | finite t m e hm => rfl

theorem fit_of_isFinite {x : Float} (h : isFinite x = true) : Fit x.toModel.unpack := by
  obtain ⟨q, hq⟩ := exists_value h
  exact (shows_unpack hq).fit

theorem unpack_of_not_isFinite {x : Float} (h : isFinite x = false) :
    (∃ s, x.toModel.unpack = .infinity s) ∨ x.toModel.unpack = .notANumber := by
  have hnone : binary? x.toModel.unpack = none := by
    rw [← ofFloat?_eq, Binary.ofFloat?]
    exact if_pos (by simpa [isFinite] using h)
  cases hu : x.toModel.unpack with
  | notANumber => exact .inr rfl
  | infinity s => exact .inl ⟨s, rfl⟩
  | zero s =>
    rw [hu] at hnone
    cases hnone
  | finite s m e hm =>
    rw [hu] at hnone
    cases hnone

/-! ## Numbers -/

section Floats

variable {x y : Float} {p q : ℚ}

theorem value?_sub (hx : value? x = some p) (hy : value? y = some q) (h : Representable (p - q)) :
    value? (x - y) = some (p - q) ∧ (q ≠ 0 → isNegative (x - y) = decide (p < q)) := by
  obtain ⟨negative, hshows, hsign⟩ := (shows_unpack hx).sub (shows_unpack hy) h
  obtain ⟨hvalue, hnegative⟩ := hshows.pack
  exact ⟨hvalue, fun hq => hnegative.trans (hsign hq)⟩

theorem value?_mul (hx : value? x = some p) (hy : value? y = some q) (h : Representable (p * q)) :
    value? (x * y) = some (p * q) := by
  obtain ⟨negative, hshows⟩ := (shows_unpack hx).mul (shows_unpack hy) h
  exact hshows.pack.1

/-- whole numbers of 53 bits are exact -/
theorem value?_ofNat {n : Nat} (h : n < 2 ^ 53) : value? (Float.ofNat n) = some (n : ℚ) := by
  have hrepresentable : Representable (n : ℚ) := by
    have hint := representable_intCast (n := n) (by rw [Nat.abs_cast]; exact_mod_cast h)
    rwa [Int.cast_natCast] at hint
  have hword : n.toUInt64.toNat = n := UInt64.toNat_ofNat_of_lt' (by change n < 2 ^ 64; omega)
  have hconverted : value? n.toUInt64.toFloat = some (n : ℚ) := by
    have hshows := shows_normalize (m := n) (e := 0) (by simpa using hrepresentable)
    have hunpacked : UnpackedFloat.ofUInt64 .binary64 n.toUInt64 = .normalize .binary64 n 0 .positive := by
      rw [UnpackedFloat.ofUInt64, hword]
      rfl
    rw [zpow_zero, mul_one, Int.cast_natCast, ← hunpacked] at hshows
    exact hshows.pack.1
  have hone : value? (.ofBits 0x3FF0000000000000) = some 1 := by
    have hparts : Binary.ofFloat? (.ofBits 0x3FF0000000000000) = some ⟨false, 2 ^ 52, -52⟩ := by decide +kernel
    rw [value?, hparts, Option.map_some, Binary.value]
    norm_num
  -- the number comes as a multiple of one
  have hproduct : Float.ofNat n = n.toUInt64.toFloat * .ofBits 0x3FF0000000000000 := by
    change Float.ofScientific n false 0 = _
    rw [Float.ofScientific, dif_pos ⟨h, by norm_num⟩]
    rfl
  rw [hproduct, value?_mul hconverted hone (by rwa [mul_one]), mul_one]

end Floats

end Benchwork.Number
