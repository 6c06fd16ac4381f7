/-
Whole numbers are written as such.

On the grid of multiples of a power of ten a whole number of 53 bits is either a point or has no point near enough
(`onGrid?_whole`), so the search for the fewest digits ends with the number itself, without zeros at its end
(`search_whole`, `strip_whole`), and writing puts the zeros back. The text of a whole number is its digits with its sign
(`plain_of_whole`).
-/
import Mathlib.Tactic
import Benchwork.Proofs.Number.Arithmetic
import Benchwork.Proofs.Number.Digits

namespace Benchwork.Number

/-! ## Whole numbers -/

/-- a whole number of 53 bits has no bits above the ones -/
theorem Canonical.of_whole {m n : Nat} {e : Int} (h : Canonical m e) (hn : n < 2 ^ 53) (hvalue : (n : ℚ) = m * 2 ^ e) :
    -52 ≤ e ∧ e ≤ 0 ∧ 2 ^ 52 ≤ m ∧ m = n * 2 ^ (-e).toNat := by
  have hvalue' : (n : ℚ) * 2 ^ (0 : Int) = m * 2 ^ e := by rw [zpow_zero, mul_one, hvalue]
  have hle : e ≤ 0 := by
    by_contra hgt
    have hfull : 2 ^ 52 ≤ m := h.full.resolve_right (by omega)
    have hlarge : n = m * 2 ^ (e - 0).toNat := eq_mul_pow_of_value_eq (by omega) hvalue'
    have htwice : 2 ^ 1 ≤ 2 ^ (e - 0).toNat := Nat.pow_le_pow_right (by norm_num) (by omega)
    nlinarith
  have hm : m = n * 2 ^ (-e).toNat := by
    rw [eq_mul_pow_of_value_eq hle hvalue'.symm, zero_sub]
  have hge : -52 ≤ e := by
    by_contra hlt
    have hpos : 0 < n := Nat.pos_of_ne_zero fun hzero => h.pos.ne' (by simp [hm, hzero])
    have hlarge : 2 ^ 53 ≤ 2 ^ (-e).toNat := Nat.pow_le_pow_right (by norm_num) (by omega)
    have hlt := h.lt
    nlinarith
  exact ⟨hge, hle, h.full.resolve_right (by omega), hm⟩

namespace Decimal

/-! ## Grids -/

/-- in quarters of the last place a whole number is a multiple of `unit`, and its interval reaches two of them far -/
theorem interval_whole {b : Binary} {n unit : Nat} (hn : 0 < n) (hunit : unit = 4 * 2 ^ (-b.exponent).toNat)
    (hm : b.mantissa = n * 2 ^ (-b.exponent).toNat) :
    (interval b).mid = n * unit ∧ (interval b).high = n * unit + 2 ∧
      (interval b).low < n * unit ∧ n * unit ≤ (interval b).low + 2 := by
  have hmid : 4 * b.mantissa = n * unit := by
    rw [hm, hunit]
    ring
  have hpos : 0 < b.mantissa := by
    rw [hm]
    positivity
  rw [interval, ← hmid]
  dsimp only
  refine ⟨rfl, rfl, ?_⟩
  split_ifs <;> omega

section Spacing

variable (n unit : Nat) {step : Nat}

/-- the next point of the grid above a whole number is a unit away -/
theorem add_unit_le_above (h : 0 < step) : n * unit + unit ≤ (n / step + 1) * (unit * step) := by
  have hnext : n + 1 ≤ step * (n / step + 1) := Nat.lt_mul_div_succ n h
  calc n * unit + unit = unit * (n + 1) := by ring
    _ ≤ unit * (step * (n / step + 1)) := Nat.mul_le_mul_left unit hnext
    _ = (n / step + 1) * (unit * step) := by ring

/-- the point below is the number itself -/
theorem below_eq (h : step ∣ n) : n / step * (unit * step) = n * unit := by
  calc n / step * (unit * step) = n / step * step * unit := by ring
    _ = n * unit := by rw [Nat.div_mul_cancel h]

/-- the point below is a unit away if it is not the number itself -/
theorem below_add_unit_le (h : ¬ step ∣ n) : n / step * (unit * step) + unit ≤ n * unit := by
  have hrest : 0 < n % step := Nat.pos_of_ne_zero fun hzero => h (Nat.dvd_of_mod_eq_zero hzero)
  have hunder : n / step * step + 1 ≤ n := by
    have hsplit := Nat.div_add_mod' n step
    omega
  calc n / step * (unit * step) + unit = unit * (n / step * step + 1) := by ring
    _ ≤ unit * n := Nat.mul_le_mul_left unit hunder
    _ = n * unit := mul_comm unit n

end Spacing

/-- on the grid of multiples of `10 ^ g` stands a whole number itself or nothing near enough -/
theorem onGrid?_whole (tie : Tie) {b : Binary} {n : Nat} (hn : 0 < n) (he : b.exponent ≤ 0)
    (hm : b.mantissa = n * 2 ^ (-b.exponent).toNat) (g : Nat) :
    onGrid? tie b g = if 10 ^ g ∣ n then some ⟨n / 10 ^ g, g⟩ else none := by
  obtain ⟨unit, hunit⟩ : ∃ unit, unit = 4 * 2 ^ (-b.exponent).toNat := ⟨_, rfl⟩
  have hfour : 4 ≤ unit := by
    rw [hunit]
    exact Nat.le_mul_of_pos_right 4 (by positivity)
  obtain ⟨hmid, hhigh, hlow, hreach⟩ := interval_whole hn hunit hm
  have hup : twoTo (b.exponent - 2).toNat * tenTo (-(g : Int)).toNat = 1 := by
    have hzero : (b.exponent - 2).toNat = 0 := by omega
    have hzero' : (-(g : Int)).toNat = 0 := by omega
    rw [hzero, hzero']
    rfl
  have hdown : twoTo (2 - b.exponent).toNat * tenTo (g : Int).toNat = unit * 10 ^ g := by
    have hsplit : (2 - b.exponent).toNat = 2 + (-b.exponent).toNat := by omega
    change 2 ^ (2 - b.exponent).toNat * 10 ^ g = _
    rw [hsplit, hunit, pow_add]
    norm_num
  have hbelow : n * unit / (unit * 10 ^ g) = n / 10 ^ g := by
    rw [mul_comm n, Nat.mul_div_mul_left _ _ (by omega)]
  have hpow : 0 < 10 ^ g := by positivity
  have habove := add_unit_le_above n unit hpow
  have hupper : ¬ (n / 10 ^ g + 1) * (unit * 10 ^ g) ≤ n * unit + 2 := by omega
  have hupper' : ¬ (n / 10 ^ g + 1) * (unit * 10 ^ g) < n * unit + 2 := by omega
  rw [onGrid?]
  dsimp only
  rw [hup, hdown, hmid, hhigh, mul_one, mul_one, mul_one, hbelow]
  by_cases hdvd : 10 ^ g ∣ n
  · have hlower : (interval b).low ≤ n / 10 ^ g * (unit * 10 ^ g) := by
      rw [below_eq n unit hdvd]
      exact hlow.le
    have hlower' : (interval b).low < n / 10 ^ g * (unit * 10 ^ g) := by rwa [below_eq n unit hdvd]
    cases (interval b).closed <;> simp [hlower, hlower', hupper, hupper', hdvd]
  · have hunder := below_add_unit_le n unit hdvd
    have hlower : ¬ (interval b).low ≤ n / 10 ^ g * (unit * 10 ^ g) := by omega
    have hlower' : ¬ (interval b).low < n / 10 ^ g * (unit * 10 ^ g) := by omega
    cases (interval b).closed <;> simp [hlower, hlower', hupper, hupper', hdvd]

/-! ## Search -/

/-- `d` is the whole number `n` with some of the zeros at its end left out -/
def IsWhole (n : Nat) (d : Decimal) : Prop := ∃ g : Nat, d.exponent = g ∧ d.digits * 10 ^ g = n

/-- the grid of the ones has a hit, and no grid before it misses the number -/
theorem search_whole (tie : Tie) {b : Binary} {n : Nat} (hn : 0 < n) (he : b.exponent ≤ 0)
    (hm : b.mantissa = n * 2 ^ (-b.exponent).toNat) {k : Nat} (fuel : Nat) {first : Nat} (hfirst : first ≤ k)
    (hfuel : k ≤ first + fuel) : IsWhole n (search tie b k fuel first) := by
  have hgrid : ∀ first ≤ k, onGrid? tie b ((k : Int) - first) =
      if 10 ^ (k - first) ∣ n then some ⟨n / 10 ^ (k - first), ((k - first : Nat) : Int)⟩ else none := by
    intro first hfirst
    rw [← Nat.cast_sub hfirst, onGrid?_whole tie hn he hm]
  have hhit : ∀ g : Nat, 10 ^ g ∣ n → IsWhole n ⟨n / 10 ^ g, (g : Int)⟩ := fun g hdvd =>
    ⟨g, rfl, Nat.div_mul_cancel hdvd⟩
  induction fuel generalizing first with
  | zero =>
    obtain rfl : k = first := by omega
    have hones : 10 ^ (k - k) ∣ n := by simp
    rw [search, hgrid k le_rfl, if_pos hones]
    exact hhit _ hones
  | succ fuel ih =>
    rw [search, hgrid first hfirst]
    by_cases hdvd : 10 ^ (k - first) ∣ n
    · rw [if_pos hdvd]
      exact hhit _ hdvd
    · rw [if_neg hdvd]
      have hne : first ≠ k := by
        rintro rfl
        exact hdvd (by simp)
      exact ih (by omega) (by omega)

theorem strip_whole {n : Nat} (fuel : Nat) {d : Decimal} (h : IsWhole n d) : IsWhole n (strip fuel d) := by
  induction fuel generalizing d with
  | zero => exact h
  | succ fuel ih =>
    rw [strip]
    by_cases hzeros : d.digits ≠ 0 ∧ d.digits % 10 = 0
    · rw [if_pos hzeros]
      obtain ⟨g, hg, hvalue⟩ := h
      refine ih ⟨g + 1, by rw [hg]; rfl, ?_⟩
      rw [pow_succ', ← mul_assoc, Nat.div_mul_cancel (Nat.dvd_of_mod_eq_zero hzeros.2), hvalue]
    · rw [if_neg hzeros]
      exact h

/-- the magnitude found is not below the guess and not above it by more than the fuel -/
theorem magnitudeFrom_bounds (b : Binary) (fuel : Nat) (k : Int) :
    k ≤ magnitudeFrom b fuel k ∧ magnitudeFrom b fuel k ≤ k + fuel := by
  induction fuel generalizing k with
  | zero => simp [magnitudeFrom]
  | succ fuel ih =>
    rw [magnitudeFrom]
    split_ifs
    · exact ⟨le_rfl, by omega⟩
    · have := ih (k + 1)
      push_cast
      omega

/-- the magnitude found is above the number, unless the fuel ran out -/
theorem magnitudeFrom_above (b : Binary) (fuel : Nat) (k : Int) :
    magnitudeFrom b fuel k = k + fuel ∨
      b.ratio.1 * tenTo (-magnitudeFrom b fuel k).toNat < b.ratio.2 * tenTo (magnitudeFrom b fuel k).toNat := by
  induction fuel generalizing k with
  | zero => simp [magnitudeFrom]
  | succ fuel ih =>
    rw [magnitudeFrom]
    split_ifs with habove
    · exact .inr habove
    · refine (ih (k + 1)).imp_left fun h => ?_
      rw [h]
      push_cast
      ring

theorem magnitude_whole {b : Binary} {n : Nat} (hn : 0 < n) (hb : 2 ^ 52 ≤ b.mantissa) (hlt : b.mantissa < 2 ^ 53)
    (hleast : -52 ≤ b.exponent) (he : b.exponent ≤ 0) (hm : b.mantissa = n * 2 ^ (-b.exponent).toNat) :
    1 ≤ magnitude b ∧ magnitude b ≤ 18 := by
  have hlog : b.mantissa.log2 = 52 := (Nat.log2_eq_iff (by omega)).2 ⟨hb, hlt⟩
  have hbounds := magnitudeFrom_bounds b 4 (((b.mantissa.log2 : Int) + b.exponent) * 30103 / 100000 - 1)
  have habove := magnitudeFrom_above b 4 (((b.mantissa.log2 : Int) + b.exponent) * 30103 / 100000 - 1)
  rw [hlog] at hbounds habove
  rw [magnitude, hlog]
  generalize magnitudeFrom b 4 _ = k at hbounds habove ⊢
  refine ⟨?_, by omega⟩
  rcases habove with hend | habove
  · omega
  · -- a whole number is not below one
    by_contra hlow
    have hone : tenTo k.toNat = 1 := by
      have hzero : k.toNat = 0 := by omega
      rw [hzero]
      rfl
    have htwo : twoTo b.exponent.toNat = 1 := by
      have hzero : b.exponent.toNat = 0 := by omega
      rw [hzero]
      rfl
    have hten : 0 < tenTo (-k).toNat := Nat.pow_pos (by norm_num)
    have hge : twoTo (-b.exponent).toNat ≤ b.mantissa := by
      rw [hm]
      exact Nat.le_mul_of_pos_left _ hn
    rw [Binary.ratio, hone, htwo, mul_one, mul_one] at habove
    exact absurd (hge.trans (Nat.le_mul_of_pos_right _ hten)) habove.not_ge

end Decimal

/-! ## Texts -/

theorem positional_of_isWhole {n : Nat} (hn : 0 < n) {d : Decimal} (h : d.IsWhole n) :
    positional d = Nat.toDigits 10 n := by
  obtain ⟨g, hg, rfl⟩ := h
  obtain ⟨digits, exponent⟩ := d
  obtain rfl : exponent = g := hg
  rw [positional_whole digits (by omega), Int.toNat_natCast, toDigits_mul_pow (Nat.pos_of_mul_pos_right hn)]

/-- the fewest digits of a whole number of 53 bits and the zeros at its end are its digits -/
theorem positional_shortest {b : Binary} {n : Nat} (hn : n < 2 ^ 53) (hvalue : (n : ℚ) = b.mantissa * 2 ^ b.exponent)
    (hb : b.mantissa ≠ 0 → Canonical b.mantissa b.exponent) (tie : Tie) :
    positional (Decimal.shortest tie b) = Nat.toDigits 10 n := by
  rw [Decimal.shortest]
  by_cases hzero : b.mantissa = 0
  · rw [hzero, Nat.cast_zero, zero_mul, Nat.cast_eq_zero] at hvalue
    rw [if_pos hzero, hvalue]
    rfl
  · rw [if_neg hzero]
    obtain ⟨hleast, he, hfull, hm⟩ := (hb hzero).of_whole hn hvalue
    have hpos : 0 < n := Nat.pos_of_ne_zero fun hnone => hzero (by rw [hm, hnone, zero_mul])
    obtain ⟨hlow, hhigh⟩ := Decimal.magnitude_whole hpos hfull (hb hzero).lt hleast he hm
    obtain ⟨k, hk⟩ := Int.eq_ofNat_of_zero_le (by omega : 0 ≤ Decimal.magnitude b)
    rw [hk] at hlow hhigh ⊢
    exact positional_of_isWhole hpos (Decimal.strip_whole 20 (Decimal.search_whole tie hpos he hm 17 (by omega) (by omega)))

/-- a whole number of 53 bits is written as such -/
theorem plain_of_whole {x : Float} {n : Int} (h : value? x = some (n : ℚ)) (hlt : |n| < 2 ^ 53)
    (hsign : isNegative x = decide (n < 0)) : plain x = toString n := by
  obtain ⟨b, hb, hnegative, hvalue, hcanonical⟩ := exists_parts h
  have hmagnitude : (n.natAbs : ℚ) = b.mantissa * 2 ^ b.exponent := by
    rw [← hvalue, Nat.cast_natAbs, Int.cast_abs]
  have hsmall : n.natAbs < 2 ^ 53 := by
    rw [Int.abs_eq_natAbs] at hlt
    omega
  rw [plain, signed, hb]
  dsimp only
  rw [positional_shortest hsmall hmagnitude hcanonical, hnegative, hsign]
  cases n with
  | ofNat n =>
    have hnonneg : ¬ Int.ofNat n < 0 := (Int.natCast_nonneg n).not_gt
    rw [decide_eq_false hnonneg]
    exact (Nat.toString_eq_ofList_toDigits).symm
  | negSucc n =>
    rw [decide_eq_true (Int.negSucc_lt_zero n)]
    change String.ofList (['-'] ++ Nat.toDigits 10 (n + 1)) = "-" ++ toString (n + 1)
    rw [String.ofList_append, Nat.toString_eq_ofList_toDigits]

end Benchwork.Number
