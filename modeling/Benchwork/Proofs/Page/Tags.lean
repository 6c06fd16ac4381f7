/-
The tags in the text of a page.

An element is written with its own tag; its character data is escaped, and no tag starts in its attributes, which are made
of words, numbers and colors (`Neat`). So the text of an element has one tag with attributes, or none if there are no
attributes (`IsTag.occurrences_render`). A tag does not run over a line break, and what stands around the marks of a chart
has none of their tags. Therefore a tag of marks stands in the text of a page as often as there are marks with it
(`occurrences_page`).
-/
import Benchwork.Page.Drawing
import Benchwork.Proofs.Number.Finite
import Benchwork.Proofs.Number.Whole
import Benchwork.Proofs.Page.Escape
import Benchwork.Proofs.Text.Occurrences

namespace Benchwork

open Benchwork.Text

/-! ## Texts without a start of a tag -/

/-- no tag starts in the text -/
abbrev Text.Tagless (s : String) : Prop := '<' ∉ s.toList

namespace Number

theorem tagless_signed {x : Float} {magnitude : Binary → List Char} (h : ∀ b, '<' ∉ magnitude b) :
    Tagless (signed x magnitude) := by
  unfold signed
  cases Binary.ofFloat? x with
  | none =>
    dsimp only
    split_ifs
    · decide
    · decide
    · decide
  | some b =>
    have hmagnitude := h b
    cases hn : b.negative <;> simp [Tagless, hn, hmagnitude]

theorem not_mem_positional (d : Decimal) : '<' ∉ positional d := by
  intro h
  rcases mem_positional h with hpoint | hdigit
  · cases hpoint
  · cases hdigit

@[simp]
theorem tagless_plain (x : Float) : Tagless (plain x) := tagless_signed fun _ => not_mem_positional _

@[simp]
theorem tagless_fixed (places : Nat) (x : Float) : Tagless (fixed places x) := tagless_signed fun _ => not_mem_positional _

end Number

theorem Chart.Color.tagless_hex (c : Color) : Tagless c.hex := by
  have hdigit : ∀ n, '<' ≠ Nat.digitChar n := fun n => (Nat.digitChar_ne '<' (by decide)).symm
  simp [Tagless, hex, hexByte, hdigit]

namespace Page

open Benchwork.Chart Benchwork.Number

/-! ## Tags of an element -/

def tagStart (t : String) : List Char := '<' :: (t.toList ++ [' '])

/-- a word that can be a tag: it is not empty, and nothing in it has a meaning in markup -/
def IsTag (t : String) : Prop := t.toList ≠ [] ∧ ∀ c ∈ t.toList, c ∉ ['<', '>', '/', ' ', '\n']

namespace Element

/-- the tag can be one, and no other tag starts in the attributes -/
structure Neat (e : Element) : Prop where
  tag : IsTag e.tag
  attributes : ∀ a ∈ e.attributes, Tagless a.1 ∧ Tagless a.2

/-- the element has this tag, with attributes after it -/
def Opens (t : String) (e : Element) : Prop := e.tag = t ∧ e.attributes ≠ []

instance (t : String) (e : Element) : Decidable (e.Opens t) := inferInstanceAs (Decidable (_ ∧ _))

def attributesText (e : Element) : String := String.join (e.attributes.map renderAttribute)

theorem Neat.tagless_attributesText {e : Element} (h : e.Neat) : Tagless e.attributesText := by
  intro hmem
  rw [attributesText, String.toList_join, List.flatMap_map] at hmem
  obtain ⟨a, ha, hchar⟩ := List.mem_flatMap.1 hmem
  obtain ⟨hname, hvalue⟩ := h.attributes a ha
  have hattribute : Tagless (renderAttribute a) := by
    simp [renderAttribute, Tagless, hname, hvalue]
  exact hattribute hchar

end Element

section Tag

variable {t : String} {e : Element}

theorem tagStart_ne_nil : tagStart t ≠ [] := List.cons_ne_nil _ _

/-- what has a meaning in markup stands in a tag at its ends only -/
theorem IsTag.not_mem_tagStart (h : IsTag t) {x : Char} (hx : x ∈ ['>', '/', '\n']) : x ∉ tagStart t := by
  intro hmem
  rcases List.mem_cons.1 hmem with rfl | hmem
  · revert hx
    decide
  rcases List.mem_append.1 hmem with hmem | hmem
  · apply h.2 x hmem
    revert hx
    simp only [List.mem_cons, List.not_mem_nil, or_false]
    tauto
  · rw [List.mem_singleton.1 hmem] at hx
    revert hx
    decide

theorem IsTag.tagless (h : IsTag t) : Tagless t := fun hmem => h.2 '<' hmem (by decide)

theorem IsTag.blank_not_mem (h : IsTag t) : ' ' ∉ t.toList := fun hmem => h.2 ' ' hmem (by decide)

/-- a tag with a blank after it is told by the text up to the first blank -/
theorem IsTag.starts_iff (h : IsTag t) (he : e.Neat) :
    t.toList ++ [' '] <+: e.tag.toList ++ e.attributesText.toList ↔ e.Opens t := by
  unfold Element.Opens
  cases hattributes : e.attributes with
  | nil =>
    have hempty : e.attributesText.toList = [] := by simp [Element.attributesText, hattributes]
    constructor
    · intro hpre
      rw [hempty, List.append_nil] at hpre
      exact absurd (hpre.subset (by simp)) he.tag.blank_not_mem
    · rintro ⟨-, hne⟩
      exact absurd rfl hne
  | cons a rest =>
    obtain ⟨more, hmore⟩ : ∃ more, e.attributesText.toList = ' ' :: more := by
      rw [Element.attributesText, hattributes, String.toList_join, List.map_cons, List.flatMap_cons]
      simp [Element.renderAttribute]
    rw [hmore]
    constructor
    · rintro ⟨z, hz⟩
      have hcut := cutAt_append he.tag.blank_not_mem more
      rw [← hz, List.append_assoc, List.singleton_append, cutAt_append h.blank_not_mem] at hcut
      have htag : t.toList = e.tag.toList := (Prod.mk.inj (Option.some.inj hcut)).1
      exact ⟨(String.toList_injective htag).symm, List.cons_ne_nil _ _⟩
    · rintro ⟨rfl, -⟩
      exact ⟨more, by simp⟩

/-- nothing that ends an element starts a tag -/
theorem IsTag.occurrences_end (h : IsTag t) (rest : List Char) (hrest : '<' ∉ rest) :
    occurrences (tagStart t) ('<' :: '/' :: rest) = 0 := by
  obtain ⟨c, cs, hcons⟩ := List.exists_cons_of_ne_nil h.1
  have hslash : c ≠ '/' := by
    rintro rfl
    exact h.2 '/' (hcons ▸ List.mem_cons_self) (by decide)
  rw [tagStart, occurrences_cons_of_not_mem (by simpa using hrest), hcons, List.cons_append,
    List.isPrefixOf_cons_cons]
  simp [hslash]

/-- The text of an element has its own tag and no other one, whatever its character data is. -/
theorem IsTag.occurrences_render (h : IsTag t) (he : e.Neat) :
    occurrences (tagStart t) e.render.toList = if e.Opens t then 1 else 0 := by
  have hgt := h.not_mem_tagStart (x := '>') (by decide)
  have hslash := h.not_mem_tagStart (x := '/') (by decide)
  have hopening : occurrences (tagStart t) ('<' :: (e.tag.toList ++ e.attributesText.toList)) =
      if e.Opens t then 1 else 0 := by
    have htagless : '<' ∉ e.tag.toList ++ e.attributesText.toList := fun hmem =>
      (List.mem_append.1 hmem).elim he.tag.tagless he.tagless_attributesText
    rw [tagStart, occurrences_cons_of_not_mem htagless]
    simp only [List.isPrefixOf_iff_prefix, h.starts_iff he]
  cases hcontent : e.content with
  | none =>
    have hrender : e.render.toList = '<' :: (e.tag.toList ++ e.attributesText.toList) ++ '/' :: ['>'] := by
      simp [Element.render, Element.attributesText, hcontent]
    rw [hrender, occurrences_append_cons tagStart_ne_nil hslash, hopening]
    simp [tagStart, occurrences_of_not_mem]
  | some s =>
    have hescape : '<' ∉ (escape s).toList := not_mem_escape rfl s
    have hrender : e.render.toList = '<' :: (e.tag.toList ++ e.attributesText.toList) ++
        '>' :: ((escape s).toList ++ '<' :: '/' :: (e.tag.toList ++ ['>'])) := by
      simp [Element.render, Element.attributesText, hcontent]
    have hend : occurrences (tagStart t) ('<' :: '/' :: (e.tag.toList ++ ['>'])) = 0 := by
      apply h.occurrences_end
      have htag : '<' ∉ e.tag.toList := he.tag.tagless
      simpa using htag
    rw [hrender, occurrences_append_cons tagStart_ne_nil hgt, hopening, tagStart,
      occurrences_append_of_not_mem hescape, ← tagStart, hend, Nat.add_zero]

end Tag

/-! ## Tags of a page -/

/-- line breaks stand in no tag, so the lines are counted one by one -/
theorem IsTag.occurrences_lines {t : String} (h : IsTag t) (lines : List String) :
    occurrences (tagStart t) (String.join (lines.map (· ++ "\n"))).toList =
      (lines.map fun l => occurrences (tagStart t) l.toList).sum := by
  have hbreak := h.not_mem_tagStart (x := '\n') (by decide)
  rw [String.toList_join, List.flatMap_map]
  induction lines with
  | nil => rfl
  | cons l lines ih =>
    have hline : (l ++ "\n").toList = l.toList ++ ['\n'] := by simp
    rw [List.flatMap_cons, hline, List.append_assoc, List.singleton_append,
      occurrences_append_cons tagStart_ne_nil hbreak, ih, List.map_cons, List.sum_cons]

def markTags : List String := ["rect", "line", "text"]

theorem isTag_of_mem_markTags : ∀ t ∈ markTags, IsTag t := by simp [markTags, IsTag]

/-- nothing at the start of a page is the tag of a mark -/
theorem occurrences_opening {t : String} (ht : t ∈ markTags) (size : FigureSize) :
    occurrences (tagStart t) (opening size).toList = 0 := by
  obtain ⟨start, hstart, hplain⟩ : ∃ start : List Char,
      "<svg xmlns=\"http://www.w3.org/2000/svg\" width=\"".toList = '<' :: 's' :: start ∧ '<' ∉ start := by
    refine ⟨"<svg xmlns=\"http://www.w3.org/2000/svg\" width=\"".toList.drop 2, ?_, ?_⟩
    · decide +kernel
    · decide +kernel
  obtain ⟨rest, hrest, htagless⟩ : ∃ rest : String,
      opening size = "<svg xmlns=\"http://www.w3.org/2000/svg\" width=\"" ++ rest ∧ Tagless rest := by
    unfold opening
    simp only [String.append_assoc]
    exact ⟨_, rfl, by simp [Tagless]⟩
  have hhead : ∀ t ∈ markTags, ∀ l, (t.toList ++ [' ']).isPrefixOf ('s' :: l) = false := by
    simp [markTags, List.isPrefixOf]
  have hafter : '<' ∉ 's' :: (start ++ rest.toList) := by
    simp [hplain, htagless]
  rw [hrest, String.toList_append, hstart, List.cons_append, List.cons_append, tagStart,
    occurrences_cons_of_not_mem hafter, hhead t ht]
  rfl

theorem occurrences_hatchPattern : ∀ t ∈ markTags, occurrences (tagStart t) hatchPattern.toList = 0 := by decide +kernel

/-! ## Marks -/

theorem neat_rect {x y width height : String} {more : List (String × String)} (hx : Tagless x) (hy : Tagless y)
    (hwidth : Tagless width) (hheight : Tagless height) (hmore : ∀ a ∈ more, Tagless a.1 ∧ Tagless a.2) :
    (rect x y width height more).Neat := by
  have hplace : ∀ a ∈ [("x", x), ("y", y), ("width", width), ("height", height)], Tagless a.1 ∧ Tagless a.2 := by
    simp [Tagless, hx, hy, hwidth, hheight]
  exact ⟨isTag_of_mem_markTags "rect" (by decide), List.forall_mem_append.2 ⟨hplace, hmore⟩⟩

theorem neat_slanted {y anchor : String} (x : Float) (s : String) (hy : Tagless y) (hanchor : Tagless anchor) :
    (slanted x y anchor s).Neat := by
  refine ⟨isTag_of_mem_markTags "text" (by decide), ?_⟩
  simp [slanted, Tagless, hy, hanchor]

/-- a filled area, with hatching over it or not -/
theorem neat_area {x y width height fill : String} (hx : Tagless x) (hy : Tagless y) (hwidth : Tagless width)
    (hheight : Tagless height) (hfill : Tagless fill) (hatched : Bool) :
    ∀ e ∈ rect x y width height (solid fill) :: (if hatched then [rect x y width height hatching] else []), e.Neat := by
  intro e he
  rcases List.mem_cons.1 he with rfl | he
  · apply neat_rect hx hy hwidth hheight
    simp [solid, opacity, Tagless, hfill]
  · split_ifs at he
    · rw [List.mem_singleton.1 he]
      apply neat_rect hx hy hwidth hheight
      simp [hatching, Tagless]
    · cases he

theorem neat_axis (f : Frame) (ticks : List Float) : ∀ e ∈ axis f ticks, e.Neat := by
  intro e he
  have hline := isTag_of_mem_markTags "line" (by decide)
  have htext := isTag_of_mem_markTags "text" (by decide)
  rcases List.mem_append.1 he with he | he
  · obtain ⟨tick, -, he⟩ := List.mem_flatMap.1 he
    simp only [tickMarks, List.mem_cons, List.not_mem_nil, or_false] at he
    rcases he with rfl | rfl
    · exact ⟨hline, by simp [Tagless]⟩
    · exact ⟨htext, by simp [Tagless]⟩
  · simp only [List.mem_cons, List.not_mem_nil, or_false] at he
    rcases he with rfl | rfl
    · exact neat_rect (tagless_plain _) (tagless_plain _) (tagless_plain _) (tagless_plain _) (by simp [Tagless])
    · exact ⟨htext, by simp [Tagless]⟩

theorem neat_bars (f : Frame) (c : Chart) : ∀ e ∈ bars f c, e.Neat := by
  intro e he
  obtain ⟨⟨s, i⟩, -, he⟩ := List.mem_flatMap.1 he
  obtain ⟨⟨b, j⟩, -, he⟩ := List.mem_flatMap.1 he
  exact neat_area (tagless_fixed _ _) (tagless_fixed _ _) (tagless_fixed _ _) (tagless_fixed _ _)
    (Color.tagless_hex _) _ e he

theorem neat_names (f : Frame) (c : Chart) : ∀ e ∈ names f c, e.Neat := by
  intro e he
  obtain ⟨⟨name, j⟩, -, rfl⟩ := List.mem_map.1 he
  exact neat_slanted _ _ (tagless_plain _) (by decide)

theorem neat_overflowLabels (f : Frame) (c : Chart) : ∀ e ∈ overflowLabels f c, e.Neat := by
  intro e he
  obtain ⟨l, -, rfl⟩ := List.mem_map.1 he
  exact neat_slanted _ _ (tagless_plain _) (by decide)

theorem tagless_of_mem_legendRows {c : Chart} {row : LegendRow} (h : row ∈ legendRows c) : Tagless row.color := by
  rcases List.mem_append.1 h with h | h
  · obtain ⟨s, -, rfl⟩ := List.mem_map.1 h
    exact Color.tagless_hex s.color
  · split_ifs at h
    · rw [List.mem_singleton.1 h]
      exact Color.tagless_hex missingColor
    · cases h

theorem neat_legend (f : Frame) (c : Chart) : ∀ e ∈ legend f c, e.Neat := by
  intro e he
  rcases List.mem_cons.1 he with rfl | he
  · exact neat_rect (tagless_plain _) (tagless_plain _) (by decide) (tagless_plain _) (by simp [Tagless])
  · obtain ⟨⟨row, k⟩, hrow, he⟩ := List.mem_flatMap.1 he
    have hmem : row ∈ legendRows c := List.mem_of_getElem? (List.mk_mem_zipIdx_iff_getElem?.1 hrow)
    rcases List.mem_append.1 he with he | he
    · exact neat_area (tagless_plain _) (tagless_plain _) (by decide) (by decide) (tagless_of_mem_legendRows hmem) _ e he
    · rw [List.mem_singleton.1 he]
      exact ⟨isTag_of_mem_markTags "text" (by decide), by simp [Tagless]⟩

theorem neat_marks (c : Chart) (size : FigureSize) (ticks : List Float) : ∀ e ∈ marks c size ticks, e.Neat := by
  have hground : Element.Neat ⟨"rect", [("width", "100%"), ("height", "100%"), ("fill", "white")], none⟩ :=
    ⟨isTag_of_mem_markTags "rect" (by decide), by simp [Tagless]⟩
  simp only [marks, List.forall_mem_cons, List.forall_mem_append]
  exact ⟨hground, ⟨⟨⟨neat_axis _ _, neat_bars _ _⟩, neat_names _ _⟩, neat_overflowLabels _ _⟩, neat_legend _ _⟩

/-- The tags of marks in the text of a page are those of its marks: no text, number or color has one in it. -/
theorem occurrences_page {t : String} (ht : t ∈ markTags) (c : Chart) (size : FigureSize) (title : String)
    (ticks : List Float) :
    occurrences (tagStart t) (String.join ((pageLines c size title ticks).map (· ++ "\n"))).toList =
      (marks c size ticks).countP (Element.Opens t) := by
  have htag := isTag_of_mem_markTags t ht
  have htitle : occurrences (tagStart t) (Element.render ⟨"title", [], some title⟩).toList = 0 := by
    have hneat : Element.Neat ⟨"title", [], some title⟩ := ⟨by simp [IsTag], by simp⟩
    rw [htag.occurrences_render hneat, if_neg fun h => h.2 rfl]
  have hend : occurrences (tagStart t) "</svg>".toList = 0 := htag.occurrences_end ['s', 'v', 'g', '>'] (by decide)
  have hmarks : ∀ es : List Element, (∀ e ∈ es, e.Neat) →
      (es.map fun e => occurrences (tagStart t) e.render.toList).sum = es.countP (Element.Opens t) := by
    intro es hneat
    induction es with
    | nil => rfl
    | cons e es ih =>
      obtain ⟨he, hes⟩ := List.forall_mem_cons.1 hneat
      rw [List.map_cons, List.sum_cons, htag.occurrences_render he, ih hes, List.countP_cons, Nat.add_comm]
      simp
  rw [htag.occurrences_lines, pageLines, List.map_append, List.map_append, List.sum_append, List.sum_append, List.map_map]
  simp only [List.map_cons, List.map_nil, List.sum_cons, List.sum_nil, htitle, hend, occurrences_opening ht,
    occurrences_hatchPattern t ht, Nat.zero_add, Nat.add_zero]
  exact hmarks _ (neat_marks c size ticks)

end Page

end Benchwork
