/-
The room that a figure size leaves.

The edges of the frame are exact whole numbers for every figure size that is accepted, and the outline of the frame is
drawn between them. There is always room from left to right; from top to bottom there is room exactly if the figure is at
least two units high (`frame_has_room_iff`). A figure of one unit is accepted as well, and the outline in it has a negative
height (`frame_of_one_unit`).
-/
import Mathlib.Tactic
import Benchwork.Page.Drawing
import Benchwork.Proofs.CommandLine.FigureSizes
import Benchwork.Proofs.Number.Plain

namespace Benchwork.Page

open Benchwork.Chart Benchwork.CommandLine Benchwork.Number

/-! ## Edges -/

/-- the exact places of the edges -/
structure Frame.HasEdges (f : Frame) (left right upper lower : Int) : Prop where
  left : value? f.left = some (left : ℚ)
  right : value? f.right = some (right : ℚ)
  upper : value? f.upper = some (upper : ℚ)
  lower : value? f.lower = some (lower : ℚ)

section Edges

variable {n : Nat}

/-- a hundred points for each unit, as far as 32 bits go -/
theorem value?_points (h : n ≤ 4294967295) : value? (Float.ofNat n * 100.0) = some ((100 * n : Int) : ℚ) := by
  have hhundred : (100.0 : Float) = Float.ofNat 100 := by decide +kernel
  have hrepresentable : Representable ((n : ℚ) * (100 : Nat)) := by
    have hint := representable_intCast (n := n * 100) (by rw [Int.abs_eq_natAbs]; omega)
    push_cast at hint ⊢
    exact hint
  rw [hhundred, value?_mul (value?_ofNat (by omega)) (value?_ofNat (by norm_num)) hrepresentable]
  push_cast
  rw [mul_comm]

/-- a margin of whole points -/
theorem value?_margin {x y : Float} {m k : Int} (hx : value? x = some (m : ℚ)) (hy : value? y = some (k : ℚ))
    (hlt : |m - k| < 2 ^ 53) : value? (x - y) = some ((m - k : Int) : ℚ) := by
  have hrepresentable := representable_intCast hlt
  rw [Int.cast_sub] at hrepresentable ⊢
  exact (value?_sub hx hy hrepresentable).1

/-- the text of a distance of whole points -/
theorem plain_distance {x y : Float} {m k : Int} (hx : value? x = some (m : ℚ)) (hy : value? y = some (k : ℚ))
    (hk : k ≠ 0) (hlt : |m - k| < 2 ^ 53) : plain (x - y) = toString (m - k) := by
  refine plain_of_whole (value?_margin hx hy hlt) hlt ?_
  have hrepresentable := representable_intCast hlt
  rw [Int.cast_sub] at hrepresentable
  rw [(value?_sub hx hy hrepresentable).2 (by exact_mod_cast hk)]
  refine decide_eq_decide.2 ?_
  rw [Int.cast_lt, sub_neg]

end Edges

theorem hasEdges_ofChart (c : Chart) {size : FigureSize} (hwidth : Fits size.width) (hheight : Fits size.height) :
    (Frame.ofChart c size).HasEdges 80 (100 * size.width - 20) 50 (100 * size.height - 120) := by
  obtain ⟨-, hwidth⟩ := hwidth
  obtain ⟨-, hheight⟩ := hheight
  have hliteral : ∀ n < 2 ^ 53, value? (Float.ofNat n) = some ((n : Int) : ℚ) := fun n hn => by
    rw [value?_ofNat hn, Int.cast_natCast]
  have hleft : (80.0 : Float) = Float.ofNat 80 := by decide +kernel
  have hright : (20.0 : Float) = Float.ofNat 20 := by decide +kernel
  have hupper : (50.0 : Float) = Float.ofNat 50 := by decide +kernel
  have hlower : (120.0 : Float) = Float.ofNat 120 := by decide +kernel
  constructor
  · change value? 80.0 = _
    rw [hleft]
    exact hliteral 80 (by norm_num)
  · change value? (Float.ofNat size.width * 100.0 - 20.0) = _
    rw [hright]
    exact value?_margin (value?_points hwidth) (hliteral 20 (by norm_num)) (by rw [Int.abs_eq_natAbs]; omega)
  · change value? 50.0 = _
    rw [hupper]
    exact hliteral 50 (by norm_num)
  · change value? (Float.ofNat size.height * 100.0 - 120.0) = _
    rw [hlower]
    exact value?_margin (value?_points hheight) (hliteral 120 (by norm_num)) (by rw [Int.abs_eq_natAbs]; omega)

/-! ## Outline -/

def outline (width height : Int) : Element :=
  rect "80" "50" (toString width) (toString height) [("fill", "none"), ("stroke", "black")]

/-- the outline is the one rectangle of the axis -/
theorem filter_rect_axis (f : Frame) (ticks : List Float) :
    (axis f ticks).filter (·.tag = "rect") =
      [rect (plain f.left) (plain f.upper) (plain (f.right - f.left)) (plain (f.lower - f.upper))
        [("fill", "none"), ("stroke", "black")]] := by
  have hticks : (ticks.flatMap (tickMarks f)).filter (·.tag = "rect") = [] := by
    rw [List.filter_eq_nil_iff]
    intro e he
    obtain ⟨tick, -, he⟩ := List.mem_flatMap.1 he
    have htag : e.tag = "line" ∨ e.tag = "text" := by
      rcases List.mem_cons.1 he with rfl | he
      · exact .inl rfl
      · exact .inr (congrArg Element.tag (List.mem_singleton.1 he))
    rcases htag with htag | htag <;> simp [htag]
  rw [axis, List.filter_append, hticks, List.nil_append]
  rfl

section Drawn

variable {f : Frame} {right lower : Int} (h : f.HasEdges 80 right 50 lower)

include h

theorem Frame.HasEdges.left_le_right_iff : f.left ≤ f.right ↔ 80 ≤ right := by
  rw [le_iff_value_le h.left h.right]
  exact_mod_cast Iff.rfl

theorem Frame.HasEdges.upper_le_lower_iff : f.upper ≤ f.lower ↔ 50 ≤ lower := by
  rw [le_iff_value_le h.upper h.lower]
  exact_mod_cast Iff.rfl

/-- the outline is as wide and as high as the edges are apart -/
theorem Frame.HasEdges.filter_rect_axis_eq (hright : |right - 80| < 2 ^ 53) (hlower : |lower - 50| < 2 ^ 53)
    (ticks : List Float) : (axis f ticks).filter (·.tag = "rect") = [outline (right - 80) (lower - 50)] := by
  have hnonneg : ∀ {x : Float} {n : Int}, value? x = some (n : ℚ) → 0 < n → isNegative x = decide (n < 0) :=
    fun {x n} hx hn => by
      rw [(shows_unpack hx).negative_eq (by exact_mod_cast hn.ne')]
      exact decide_eq_decide.2 (by exact_mod_cast Iff.rfl)
  have hleft : plain f.left = "80" := plain_of_whole h.left (by decide) (hnonneg h.left (by decide))
  have hupper : plain f.upper = "50" := plain_of_whole h.upper (by decide) (hnonneg h.upper (by decide))
  rw [filter_rect_axis, hleft, hupper, plain_distance h.right h.left (by decide) hright,
    plain_distance h.lower h.upper (by decide) hlower, outline]

end Drawn

theorem render_mem_pageLines {c : Chart} {size : FigureSize} {ticks : List Float} {e : Element}
    (h : e ∈ axis (Frame.ofChart c size) ticks) (title : String) : e.render ∈ pageLines c size title ticks := by
  have hmark : e ∈ marks c size ticks := by simp [marks, h]
  simp only [pageLines, List.mem_append]
  exact .inl (.inr (List.mem_map_of_mem hmark))

/-- **There is room for the plot exactly if the figure is at least two units high.** For every figure size that is
accepted the edges of the frame are the whole numbers that the margins leave, and the outline that is drawn on the page
is as wide and as high as they are apart. From left to right there always is room. -/
theorem frame_has_room_iff {s : String} {size : FigureSize} (h : parseFigureSize s = .ok size) (c : Chart) :
    (Frame.ofChart c size).HasEdges 80 (100 * size.width - 20) 50 (100 * size.height - 120) ∧
      (Frame.ofChart c size).left ≤ (Frame.ofChart c size).right ∧
      ((Frame.ofChart c size).upper ≤ (Frame.ofChart c size).lower ↔ 2 ≤ size.height) ∧
      ∀ title ticks,
        (axis (Frame.ofChart c size) ticks).filter (·.tag = "rect") =
            [outline (100 * size.width - 100) (100 * size.height - 170)] ∧
          (outline (100 * size.width - 100) (100 * size.height - 170)).render ∈ pageLines c size title ticks := by
  obtain ⟨x, y, -, -, -, hwidth, hheight⟩ := figureSizeOf_eq_some_iff.1 (parseFigureSize_eq_ok_iff.1 h)
  have hedges := hasEdges_ofChart c hwidth hheight
  obtain ⟨hwide, hwidth⟩ := hwidth
  obtain ⟨hhigh, hheight⟩ := hheight
  refine ⟨hedges, ?_, ?_, fun title ticks => ?_⟩
  · rw [hedges.left_le_right_iff]
    omega
  · rw [hedges.upper_le_lower_iff]
    omega
  · have hdrawn := hedges.filter_rect_axis_eq (by rw [Int.abs_eq_natAbs]; omega)
      (by rw [Int.abs_eq_natAbs]; omega) ticks
    have hacross : (100 * size.width - 20 - 80 : Int) = 100 * size.width - 100 := by ring
    have hdown : (100 * size.height - 120 - 50 : Int) = 100 * size.height - 170 := by ring
    rw [hacross, hdown] at hdrawn
    refine ⟨hdrawn, render_mem_pageLines (List.mem_of_mem_filter (p := (·.tag = "rect")) ?_) title⟩
    rw [hdrawn]
    exact List.mem_singleton_self _

def blankChart : Chart where
  names := []
  series := []
  limit := none
  limit_pos := nofun

/-- the smallest size with room for the plot -/
theorem frame_has_room_smallest :
    parseFigureSize " 1 ,+2" = .ok ⟨1, 2⟩ ∧
      (Frame.ofChart blankChart ⟨1, 2⟩).left ≤ (Frame.ofChart blankChart ⟨1, 2⟩).right ∧
      (Frame.ofChart blankChart ⟨1, 2⟩).upper ≤ (Frame.ofChart blankChart ⟨1, 2⟩).lower ∧
      (outline 0 30).render ∈ pageLines blankChart ⟨1, 2⟩ "t" [0.0] := by
  have hread : parseFigureSize " 1 ,+2" = .ok ⟨1, 2⟩ := parseFigureSize_eq_ok_iff.2 (by decide +kernel)
  obtain ⟨-, hacross, hdown, hdrawn⟩ := frame_has_room_iff hread blankChart
  exact ⟨hread, hacross, hdown.2 (by decide), (hdrawn "t" [0.0]).2⟩

/-- a figure of one unit is accepted, and the lower edge of the frame in it is above the upper one -/
theorem frame_of_one_unit :
    parseFigureSize "16,1" = .ok ⟨16, 1⟩ ∧
      ¬ (Frame.ofChart blankChart ⟨16, 1⟩).upper ≤ (Frame.ofChart blankChart ⟨16, 1⟩).lower ∧
      (axis (Frame.ofChart blankChart ⟨16, 1⟩) []).filter (·.tag = "rect") = [outline 1500 (-70)] :=
  ⟨parseFigureSize_eq_ok_iff.2 (by decide +kernel), by decide +kernel, by decide +kernel⟩

end Benchwork.Page
