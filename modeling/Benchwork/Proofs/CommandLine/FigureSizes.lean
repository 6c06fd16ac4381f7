/-
The grammar of figure sizes.

A figure size is two whole numbers with a comma between them. Each may have a plus sign and blanks around it, is at least
one and has at most 32 bits. `figureSizeOf_eq_some_iff` says that nothing else is read as one;
`parseFigureSize_follows_grammar` adds that any other text is reported as it is, and that sizes which are written out in
digits are read back.
-/
import Benchwork.CommandLine.Plot
import Benchwork.Proofs.Number.Whole

namespace Benchwork.CommandLine

open Benchwork.Benchmark Benchwork.Number Benchwork.Page Benchwork.Text

/-! ## Numbers in a figure size -/

/-- digits that stand for `n`, with a plus sign before them or not and blanks around -/
def Denotes (n : Nat) (cs : List Char) : Prop :=
  ∃ sign ds, Padded (sign ++ ds) cs ∧ (sign = [] ∨ sign = ['+']) ∧ IsDigits ds ∧ decimalValue ds = n

/-- a number that a figure may be wide or high -/
def Fits (n : Nat) : Prop := 1 ≤ n ∧ n ≤ 4294967295

theorem solid_of_signed {sign ds : List Char} (hsign : sign = [] ∨ sign = ['+']) (hds : IsDigits ds) :
    ∀ c ∈ sign ++ ds, isBlank c = false := by
  refine List.forall_mem_append.2 ⟨?_, fun c hc => not_isBlank_of_isDigit (hds.digits c hc)⟩
  rcases hsign with rfl | rfl
  · simp
  · simp [isBlank]

theorem whole?_trimChars_eq_some_iff {cs : List Char} {n : Nat} : whole? (trimChars cs) = some n ↔ Denotes n cs := by
  rw [whole?_eq_some_iff]
  constructor
  · rintro ⟨sign, ds, htrim, hsign, hds, hvalue⟩
    exact ⟨sign, ds, (trimChars_eq_iff.1 htrim).2, hsign, hds, hvalue⟩
  · rintro ⟨sign, ds, hpadded, hsign, hds, hvalue⟩
    exact ⟨sign, ds, trimChars_eq_iff.2 ⟨bare_of_forall (solid_of_signed hsign hds), hpadded⟩, hsign, hds, hvalue⟩

theorem Denotes.comma_not_mem {n : Nat} {cs : List Char} (h : Denotes n cs) : ',' ∉ cs := by
  obtain ⟨sign, ds, hpadded, hsign, hds, -⟩ := h
  intro hcomma
  rcases hpadded.mem hcomma with hmem | hblank
  · rcases List.mem_append.1 hmem with hmem | hmem
    · rcases hsign with rfl | rfl <;> simp at hmem
    · exact absurd (hds.digits ',' hmem) (by decide)
  · simp [isBlank] at hblank

theorem denotes_toDigits (n : Nat) : Denotes n (Nat.toDigits 10 n) :=
  ⟨[], Nat.toDigits 10 n, Padded.refl _, .inl rfl, isDigits_toDigits n, decimalValue_toDigits n⟩

/-! ## Figure sizes -/

theorem figureSizeOf_eq_some_iff {cs : List Char} {size : FigureSize} :
    figureSizeOf cs = some size ↔ ∃ x y, cs = x ++ ',' :: y ∧ Denotes size.width x ∧ Denotes size.height y ∧
      Fits size.width ∧ Fits size.height := by
  constructor
  · intro h
    rw [figureSizeOf] at h
    obtain ⟨⟨x, y⟩, hcut, h⟩ := Option.bind_eq_some_iff.1 h
    obtain ⟨width, hwidth, h⟩ := Option.bind_eq_some_iff.1 h
    obtain ⟨height, hheight, h⟩ := Option.bind_eq_some_iff.1 h
    split_ifs at h with hrange
    obtain rfl := Option.some.inj h
    refine ⟨x, y, (cutAt_eq_some_iff.1 hcut).1, whole?_trimChars_eq_some_iff.1 hwidth,
      whole?_trimChars_eq_some_iff.1 hheight, ?_, ?_⟩
    · change 1 ≤ width ∧ width ≤ top32
      omega
    · change 1 ≤ height ∧ height ≤ top32
      omega
  · rintro ⟨x, y, rfl, hx, hy, hwidth, hheight⟩
    have hrange : ¬ (size.width = 0 ∨ size.height = 0 ∨ top32 < size.width ∨ top32 < size.height) := by
      change 1 ≤ size.width ∧ size.width ≤ top32 at hwidth
      change 1 ≤ size.height ∧ size.height ≤ top32 at hheight
      omega
    rw [figureSizeOf, cutAt_append hx.comma_not_mem]
    simp only [Option.bind_eq_bind, Option.bind_some, whole?_trimChars_eq_some_iff.2 hx, whole?_trimChars_eq_some_iff.2 hy]
    rw [if_neg hrange]

theorem figureSizeOf_digits {size : FigureSize} (hwidth : 0 < size.width ∧ size.width ≤ Number.top32)
    (hheight : 0 < size.height ∧ size.height ≤ Number.top32) :
    figureSizeOf (toString size.width ++ "," ++ toString size.height).toList = some size := by
  refine figureSizeOf_eq_some_iff.2 ⟨Nat.toDigits 10 size.width, Nat.toDigits 10 size.height, by simp,
    denotes_toDigits size.width, denotes_toDigits size.height, hwidth, hheight⟩

theorem parseFigureSize_eq_ok_iff {s : String} {size : FigureSize} :
    parseFigureSize s = .ok size ↔ figureSizeOf s.toList = some size := by
  rw [parseFigureSize]
  cases figureSizeOf s.toList with
  | none => simp
  | some found => simp

/-- **Figure sizes are two numbers with a comma.** A text is read as a figure size exactly if it is two numbers that
fit with a comma between them, each with a plus sign or not and blanks around. Any other text is reported as it is. Two
numbers that are written out in digits are read back exactly if they fit. -/
theorem parseFigureSize_follows_grammar :
    (∀ s size, parseFigureSize s = .ok size ↔ ∃ x y, s.toList = x ++ ',' :: y ∧ Denotes size.width x ∧
      Denotes size.height y ∧ Fits size.width ∧ Fits size.height) ∧
    (∀ s, (∃ size, parseFigureSize s = .ok size) ∨ parseFigureSize s = .error (.invalidFigureSize s)) ∧
    ∀ width height, parseFigureSize (toString width ++ "," ++ toString height) = .ok ⟨width, height⟩ ↔
      Fits width ∧ Fits height := by
  have hgrammar : ∀ s size, parseFigureSize s = .ok size ↔ ∃ x y, s.toList = x ++ ',' :: y ∧ Denotes size.width x ∧
      Denotes size.height y ∧ Fits size.width ∧ Fits size.height := fun s size =>
    parseFigureSize_eq_ok_iff.trans figureSizeOf_eq_some_iff
  refine ⟨hgrammar, fun s => ?_, fun width height => ⟨fun hread => ?_, fun hfits => ?_⟩⟩
  · rw [parseFigureSize]
    cases figureSizeOf s.toList with
    | none => exact .inr rfl
    | some size => exact .inl ⟨size, rfl⟩
  · obtain ⟨x, y, -, -, -, hwidth, hheight⟩ := (hgrammar _ _).1 hread
    exact ⟨hwidth, hheight⟩
  · exact parseFigureSize_eq_ok_iff.2 (@figureSizeOf_digits ⟨width, height⟩ hfits.1 hfits.2)

end Benchwork.CommandLine
