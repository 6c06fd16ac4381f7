/-
The order of texts and the order of their bytes.

Of two characters the smaller one is written with the smaller bytes, and no character is written as the start of another
one (`utf8EncodeChar_append_lt`). So texts are in the same order as their bytes (`encode_lt_encode_iff`), and what is kept
in the order of its keys is kept in byte order.
-/
import Benchwork.Proofs.Text.Utf8

namespace Benchwork.Text.Utf8

/-- two bytes in a row: the first one decides, and where it is the same the rest does -/
theorem ofNat_cons_lt_ofNat_cons {n m : Nat} (hn : n < 256) (hm : m < 256) {rest rest' : List UInt8} :
    UInt8.ofNat n :: rest < UInt8.ofNat m :: rest' ↔ n < m ∨ n = m ∧ rest < rest' := by
  rw [List.cons_lt_cons_iff, UInt8.lt_iff_toNat_lt, ← UInt8.toNat_inj, UInt8.toNat_ofNat_of_lt' hn,
    UInt8.toNat_ofNat_of_lt' hm]

/-- the smaller character has the smaller byte where the two are first written differently -/
theorem utf8EncodeChar_append_lt {c d : Char} (h : c < d) (rest rest' : List UInt8) :
    String.utf8EncodeChar c ++ rest < String.utf8EncodeChar d ++ rest' := by
  have hcode : c.val.toNat < d.val.toNat := UInt32.lt_iff_toNat_lt.1 (Char.lt_def.1 h)
  have hd : d.val.toNat < 0x110000 := by
    rcases d.valid with hlow | ⟨-, hhigh⟩
    · exact hlow.trans (by decide)
    · exact hhigh
  unfold String.utf8EncodeChar
  dsimp only
  generalize c.val.toNat = n at hcode
  generalize d.val.toNat = m at hcode hd
  -- each byte has six more bits of the character
  have htwelve : ∀ k : Nat, k / 4096 = k / 64 / 64 := fun k => (Nat.div_div_eq_div_mul k 64 64).symm
  have heighteen : ∀ k : Nat, k / 262144 = k / 64 / 64 / 64 := fun k => by rw [← htwelve, Nat.div_div_eq_div_mul]
  rw [htwelve n, htwelve m, heighteen n, heighteen m]
  -- the number of bytes grows with the character, and its first byte with the number of bytes
  split_ifs <;> simp (disch := omega) only [List.cons_append, ofNat_cons_lt_ofNat_cons] <;> omega

/-- the smaller text has the smaller bytes -/
theorem flatMap_utf8EncodeChar_lt {cs ds : List Char} (h : cs < ds) :
    cs.flatMap String.utf8EncodeChar < ds.flatMap String.utf8EncodeChar := by
  induction h with
  | @nil d ds =>
    obtain ⟨b, bs, hbytes⟩ := List.exists_cons_of_ne_nil (String.utf8EncodeChar_ne_nil (c := d))
    rw [List.flatMap_nil, List.flatMap_cons, hbytes]
    exact List.nil_lt_cons b _
  | cons _ ih => exact List.Lex.append_left _ ih _
  | rel hlt => exact utf8EncodeChar_append_lt hlt _ _

theorem encode_lt_encode_iff {s t : String} : encode s < encode t ↔ s < t := by
  refine ⟨fun h => ?_, flatMap_utf8EncodeChar_lt⟩
  by_contra hlt
  by_cases heq : t = s
  · exact List.lt_irrefl _ (heq ▸ h)
  · have hgt : t < s := Std.lt_of_le_of_ne (Std.not_lt.1 hlt) heq
    exact List.lt_asymm h (flatMap_utf8EncodeChar_lt hgt)

/-- texts are in the order of their bytes -/
theorem encode_le_encode_iff {s t : String} : encode s ≤ encode t ↔ s ≤ t := by
  rw [← List.not_lt, ← String.not_lt, encode_lt_encode_iff]

end Benchwork.Text.Utf8
