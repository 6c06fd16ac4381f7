/-
Reading and writing text.

A character that is read from bytes is written back as the same bytes (`encode_of_piece`): a character has one
well-formed sequence, so a byte string is the only one with its text (`encode_of_decode`). A byte that continues no
sequence ends one, so what stands before it and what stands after it are read apart (`pieces_append`).
-/
import Mathlib.Tactic
import Benchwork.Text.Utf8

namespace Benchwork.Text.Utf8

theorem utf8EncodeChar_ofNat {n : Nat} (h : n.isValidChar) :
    String.utf8EncodeChar (Char.ofNat n) =
      if n ≤ 0x7f then [UInt8.ofNat n]
      else if n ≤ 0x7ff then [UInt8.ofNat (n / 64 % 0x20 + 0xc0), UInt8.ofNat (n % 0x40 + 0x80)]
      else if n ≤ 0xffff then
        [UInt8.ofNat (n / 4096 % 0x10 + 0xe0), UInt8.ofNat (n / 64 % 0x40 + 0x80), UInt8.ofNat (n % 0x40 + 0x80)]
      else
        [UInt8.ofNat (n / 262144 % 0x08 + 0xf0), UInt8.ofNat (n / 4096 % 0x40 + 0x80),
          UInt8.ofNat (n / 64 % 0x40 + 0x80), UInt8.ofNat (n % 0x40 + 0x80)] := by
  have hv : (Char.ofNat n).val.toNat = n := by
    rw [Char.ofNat, dif_pos h]
    rfl
  rw [String.utf8EncodeChar, hv]

theorem ofNat_eq {n : Nat} {b : UInt8} (h : n = b.toNat) : UInt8.ofNat n = b := by
  rw [h, UInt8.ofNat_toNat]

theorem isTail_iff {b : UInt8} : isTail b = true ↔ 0x80 ≤ b.toNat ∧ b.toNat ≤ 0xBF := by
  simp [isTail, UInt8.le_iff_toNat_le]

/-- the second byte is a continuation byte, and keeps the sequence from being too long or out of range -/
theorem isSecond_bounds {a b : UInt8} (h : isSecond a b = true) :
    (0x80 ≤ b.toNat ∧ b.toNat ≤ 0xBF) ∧ (a.toNat = 0xE0 → 0xA0 ≤ b.toNat) ∧ (a.toNat = 0xED → b.toNat ≤ 0x9F) ∧
      (a.toNat = 0xF0 → 0x90 ≤ b.toNat) ∧ (a.toNat = 0xF4 → b.toNat ≤ 0x8F) := by
  simp only [isSecond, isTail, beq_iff_eq, ← UInt8.toNat_inj] at h
  split_ifs at h <;>
    simp only [Bool.and_eq_true, decide_eq_true_eq, UInt8.le_iff_toNat_le] at h <;>
    simp at * <;> omega

/-- a byte below 0x80 stands for itself only -/
theorem eq_of_mem_encodeChar {c : Char} {b : UInt8} (hb : b.toNat < 0x80) (h : b ∈ String.utf8EncodeChar c) :
    c.toNat = b.toNat := by
  have hlow : ∀ {n : Nat}, b = UInt8.ofNat n → n % 256 = b.toNat := by
    rintro n rfl
    simp
  rw [String.utf8EncodeChar] at h
  change c.val.toNat = b.toNat
  split_ifs at h with h1 h2 h3
  · have := hlow (List.mem_singleton.1 h)
    omega
  · simp only [List.mem_cons, List.not_mem_nil, or_false] at h
    rcases h with h | h <;> have := hlow h <;> omega
  · simp only [List.mem_cons, List.not_mem_nil, or_false] at h
    rcases h with h | h | h <;> have := hlow h <;> omega
  · simp only [List.mem_cons, List.not_mem_nil, or_false] at h
    rcases h with h | h | h | h <;> have := hlow h <;> omega

theorem exists_mem_of_mem_encode {s : String} {b : UInt8} (hb : b.toNat < 0x80) (h : b ∈ encode s) :
    ∃ c ∈ s.toList, c.toNat = b.toNat := by
  obtain ⟨c, hc, hbc⟩ := List.mem_flatMap.1 h
  exact ⟨c, hc, eq_of_mem_encodeChar hb hbc⟩

theorem encode_one {a : UInt8} (ha : a.toNat < 0x80) : String.utf8EncodeChar (Char.ofNat a.toNat) = [a] := by
  have hv : a.toNat.isValidChar := .inl (by omega)
  rw [utf8EncodeChar_ofNat hv, if_pos (by omega), ofNat_eq rfl]

theorem encode_two {a b : UInt8} (ha : 0xC2 ≤ a.toNat ∧ a.toNat ≤ 0xDF) (hb : 0x80 ≤ b.toNat ∧ b.toNat ≤ 0xBF) :
    String.utf8EncodeChar (Char.ofNat ((a.toNat - 0xC0) * 64 + tailBits b)) = [a, b] := by
  unfold tailBits
  have hv : ((a.toNat - 0xC0) * 64 + (b.toNat - 0x80)).isValidChar := .inl (by omega)
  rw [utf8EncodeChar_ofNat hv, if_neg (by omega), if_pos (by omega), ofNat_eq (b := a) (by omega),
    ofNat_eq (b := b) (by omega)]

theorem encode_three {a b c : UInt8} (ha : 0xE0 ≤ a.toNat ∧ a.toNat ≤ 0xEF) (hb : isSecond a b = true)
    (hc : 0x80 ≤ c.toNat ∧ c.toNat ≤ 0xBF) :
    String.utf8EncodeChar (Char.ofNat (((a.toNat - 0xE0) * 64 + tailBits b) * 64 + tailBits c)) = [a, b, c] := by
  obtain ⟨hb, hlow, hhigh, -, -⟩ := isSecond_bounds hb
  unfold tailBits
  have hv : (((a.toNat - 0xE0) * 64 + (b.toNat - 0x80)) * 64 + (c.toNat - 0x80)).isValidChar := by
    unfold Nat.isValidChar
    omega
  rw [utf8EncodeChar_ofNat hv, if_neg (by omega), if_neg (by omega), if_pos (by omega), ofNat_eq (b := a) (by omega),
    ofNat_eq (b := b) (by omega), ofNat_eq (b := c) (by omega)]

theorem encode_four {a b c d : UInt8} (ha : 0xF0 ≤ a.toNat ∧ a.toNat ≤ 0xF4) (hb : isSecond a b = true)
    (hc : 0x80 ≤ c.toNat ∧ c.toNat ≤ 0xBF) (hd : 0x80 ≤ d.toNat ∧ d.toNat ≤ 0xBF) :
    String.utf8EncodeChar
      (Char.ofNat ((((a.toNat - 0xF0) * 64 + tailBits b) * 64 + tailBits c) * 64 + tailBits d)) = [a, b, c, d] := by
  obtain ⟨hb, -, -, hlow, hhigh⟩ := isSecond_bounds hb
  unfold tailBits
  have hv : ((((a.toNat - 0xF0) * 64 + (b.toNat - 0x80)) * 64 + (c.toNat - 0x80)) * 64 +
      (d.toNat - 0x80)).isValidChar := by
    unfold Nat.isValidChar
    omega
  rw [utf8EncodeChar_ofNat hv, if_neg (by omega), if_neg (by omega), if_neg (by omega), ofNat_eq (b := a) (by omega),
    ofNat_eq (b := b) (by omega), ofNat_eq (b := c) (by omega), ofNat_eq (b := d) (by omega)]

/-- a character is written as the bytes it was read from -/
theorem encode_of_piece {a : UInt8} {rest : List UInt8} {c : Char} {k : Nat} (h : piece a rest = (.char c, k)) :
    String.utf8EncodeChar c = a :: rest.take k := by
  have hrange : ∀ {x y : UInt8}, (decide (x ≤ a) && decide (a ≤ y)) = true → x.toNat ≤ a.toNat ∧ a.toNat ≤ y.toNat := by
    intro x y hxy
    simpa only [Bool.and_eq_true, decide_eq_true_eq, UInt8.le_iff_toNat_le] using hxy
  unfold piece at h
  split_ifs at h with h1 h2 h3 h4
  · obtain ⟨hc, rfl⟩ := Prod.mk.inj h
    rw [← Piece.char.inj hc]
    exact encode_one (UInt8.lt_iff_toNat_lt.1 h1)
  · split at h
    · rename_i b rest
      split_ifs at h with hb
      · obtain ⟨hc, rfl⟩ := Prod.mk.inj h
        rw [← Piece.char.inj hc]
        exact encode_two (hrange h2) (isTail_iff.1 hb)
      · cases h
    · cases h
  · split at h
    · rename_i b rest
      split_ifs at h with hb
      · split at h
        · rename_i x rest
          split_ifs at h with hx
          · obtain ⟨hc, rfl⟩ := Prod.mk.inj h
            rw [← Piece.char.inj hc]
            exact encode_three (hrange h3) hb (isTail_iff.1 hx)
          · cases h
        · cases h
      · cases h
    · cases h
  · split at h
    · rename_i b rest
      split_ifs at h with hb
      · split at h
        · rename_i x rest
          split_ifs at h with hx
          · split at h
            · rename_i y rest
              split_ifs at h with hy
              · obtain ⟨hc, rfl⟩ := Prod.mk.inj h
                rw [← Piece.char.inj hc]
                exact encode_four (hrange h4) hb (isTail_iff.1 hx) (isTail_iff.1 hy)
              · cases h
            · cases h
          · cases h
        · cases h
      · cases h
    · cases h
  · cases h

/-- a byte string with a text is what the text is written as -/
theorem encode_of_decode {bytes : List UInt8} {s : String} (h : decode? bytes = some s) : encode s = bytes := by
  obtain ⟨cs, hcs, rfl⟩ := Option.map_eq_some_iff.1 h
  rw [encode, String.toList_ofList]
  clear h
  fun_induction pieces bytes generalizing cs with
  | case1 =>
    obtain rfl : cs = [] := by simpa using hcs.symm
    rfl
  | case2 a rest ih =>
    rw [List.mapM_cons] at hcs
    obtain ⟨c, hc, hcs⟩ := Option.bind_eq_some_iff.1 hcs
    obtain ⟨cs', hcs', hcs⟩ := Option.bind_eq_some_iff.1 hcs
    obtain rfl := Option.some.inj hcs
    have hpiece : piece a rest = (.char c, (piece a rest).2) := by
      cases hp : (piece a rest).1 with
      | char c' =>
        rw [hp] at hc
        rw [← Option.some.inj hc, ← hp]
      | stray bytes => rw [hp] at hc; cases hc
    rw [List.flatMap_cons, ih _ hcs', encode_of_piece hpiece, List.cons_append, List.take_append_drop]

theorem decode_injective {a b : List UInt8} {s : String} (ha : decode? a = some s) (hb : decode? b = some s) : a = b :=
  (encode_of_decode ha).symm.trans (encode_of_decode hb)

theorem encode_injective {s t : String} (h : encode s = encode t) : s = t := by
  rw [← String.toByteArray_inj, ← String.utf8Encode_toList, ← String.utf8Encode_toList]
  exact congrArg List.toByteArray h

/-- a text is shown as it is -/
theorem lossy_of_decode {bytes : List UInt8} {s : String} (h : decode? bytes = some s) : lossy bytes = s := by
  obtain ⟨cs, hcs, rfl⟩ := Option.map_eq_some_iff.1 h
  have hall : ∀ (ps : List Piece) (cs : List Char), ps.mapM Piece.char? = some cs →
      ps.map (fun p => p.char?.getD '\uFFFD') = cs := by
    intro ps
    induction ps with
    | nil =>
      intro cs hcs
      exact Option.some.inj hcs
    | cons p ps ih =>
      intro cs hcs
      rw [List.mapM_cons] at hcs
      obtain ⟨c, hc, hcs⟩ := Option.bind_eq_some_iff.1 hcs
      obtain ⟨cs', hcs', hcs⟩ := Option.bind_eq_some_iff.1 hcs
      obtain rfl := Option.some.inj hcs
      rw [List.map_cons, hc, ih cs' hcs']
      rfl
  rw [lossy, hall _ cs hcs]

/-- an ASCII character that is shown stands in the bytes -/
theorem exists_mem_of_mem_lossy {bytes : List UInt8} {c : Char} (hc : c.toNat < 0x80) (h : c ∈ (lossy bytes).toList) :
    ∃ b ∈ bytes, b.toNat = c.toNat := by
  rw [lossy, String.toList_ofList] at h
  fun_induction pieces bytes with
  | case1 => exact absurd h List.not_mem_nil
  | case2 a rest ih =>
    rw [List.map_cons] at h
    rcases List.mem_cons.1 h with hfirst | hrest
    · cases hp : (piece a rest).1 with
      | stray bytes =>
        rw [hp] at hfirst
        obtain rfl : c = '\uFFFD' := hfirst
        exact absurd hc (by decide)
      | char d =>
        rw [hp] at hfirst
        obtain rfl : c = d := hfirst
        have hbytes : String.utf8EncodeChar c = a :: rest.take (piece a rest).2 := encode_of_piece (by rw [← hp])
        have hone : [UInt8.ofNat c.toNat] = String.utf8EncodeChar c := by
          rw [String.utf8EncodeChar, if_pos (by change c.toNat ≤ 127; omega)]
          rfl
        rw [← hone] at hbytes
        refine ⟨a, List.mem_cons_self, ?_⟩
        rw [← (List.cons.inj hbytes).1, UInt8.toNat_ofNat', Nat.mod_eq_of_lt (by omega)]
    · obtain ⟨b, hb, hbc⟩ := ih hrest
      exact ⟨b, List.mem_cons_of_mem a (List.mem_of_mem_drop hb), hbc⟩

/-! ## Reading in parts -/

theorem isSecond_of_not_isTail {s : UInt8} (hs : isTail s = false) (a : UInt8) : isSecond a s = false := by
  by_contra h
  rw [isTail_iff.2 (isSecond_bounds (Bool.eq_true_of_not_eq_false h)).1] at hs
  cases hs

/-- a piece does not go on into a byte that continues no sequence -/
theorem piece_append {s : UInt8} (hs : isTail s = false) (a : UInt8) (rest more : List UInt8) :
    piece a (rest ++ s :: more) = piece a rest := by
  have hsecond := isSecond_of_not_isTail hs a
  rcases rest with _ | ⟨x, _ | ⟨y, _ | ⟨z, rest⟩⟩⟩ <;> simp [piece, hs, hsecond]

theorem piece_le (a : UInt8) (rest : List UInt8) : (piece a rest).2 ≤ rest.length := by
  rcases rest with _ | ⟨x, _ | ⟨y, _ | ⟨z, rest⟩⟩⟩ <;> simp only [piece] <;> split_ifs <;> simp

/-- a byte that continues no sequence starts a piece -/
theorem pieces_append {s : UInt8} (hs : isTail s = false) (bytes more : List UInt8) :
    pieces (bytes ++ s :: more) = pieces bytes ++ pieces (s :: more) := by
  fun_induction pieces bytes with
  | case1 => rfl
  | case2 a rest ih =>
    rw [List.cons_append, pieces, piece_append hs, List.drop_append_of_le_length (piece_le a rest), ih,
      List.cons_append]

theorem pieces_cons_ascii {a : UInt8} (ha : a < 0x80) (rest : List UInt8) :
    pieces (a :: rest) = .char (Char.ofNat a.toNat) :: pieces rest := by
  have hpiece : piece a rest = (.char (Char.ofNat a.toNat), 0) := by simp [piece, ha]
  rw [pieces, hpiece, List.drop_zero]

end Benchwork.Text.Utf8
