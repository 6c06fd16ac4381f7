/-
Escaped character data.

Replacing one character is a map of the characters (`toList_replace_char`). The ampersand is replaced first and no other
replacement looks for one, so the four replacements together are one map as well (`toList_escape`), whose values have
none of the characters that tags and attributes are made of (`isDelimiter_of_mem_escape`).

`unescape` reads the entities back. Each value of the map is read as the character that it is written for, whatever
follows it (`unescapeChars_entity_append`), so nothing is lost (`escape_faithful`): not even a text that has entities in
it is written like another one.
-/
import Mathlib.Tactic
import Benchwork.Page.Element

namespace Benchwork

/-! ## Replacing one character -/

namespace Text

theorem replaceAll_char (c : Char) (sub cs : List Char) :
    replaceAll [c] sub cs = cs.flatMap fun x => if x = c then sub else [x] := by
  induction cs with
  | nil => rw [replaceAll, List.flatMap_nil]
  | cons x cs ih =>
    rw [replaceAll, List.flatMap_cons, ← ih]
    by_cases hx : x = c
    · simp [hx]
    · simp [hx, Ne.symm hx]

theorem toList_replace_char {pat : String} {c : Char} (h : pat.toList = [c]) (sub s : String) :
    (replace pat sub s).toList = s.toList.flatMap fun x => if x = c then sub.toList else [x] := by
  rw [replace, String.toList_ofList, h, replaceAll_char]

end Text

/-! ## Entities -/

namespace Page

open Benchwork.Text

/-- what is written for a character -/
def entity (c : Char) : List Char :=
  if c = '&' then "&amp;".toList
  else if c = '<' then "&lt;".toList
  else if c = '>' then "&gt;".toList
  else if c = '"' then "&quot;".toList
  else [c]

/-- the four replacements are one map of the characters -/
theorem toList_escape (s : String) : (escape s).toList = s.toList.flatMap entity := by
  have hquot : "\"".toList = ['"'] := rfl
  have hgt : ">".toList = ['>'] := rfl
  have hlt : "<".toList = ['<'] := rfl
  have hamp : "&".toList = ['&'] := rfl
  rw [escape, toList_replace_char hquot, toList_replace_char hgt, toList_replace_char hlt, toList_replace_char hamp,
    List.flatMap_assoc, List.flatMap_assoc, List.flatMap_assoc]
  congr 1
  funext c
  unfold entity
  by_cases h₁ : c = '&'
  · subst h₁
    rfl
  by_cases h₂ : c = '<'
  · subst h₂
    rfl
  by_cases h₃ : c = '>'
  · subst h₃
    rfl
  by_cases h₄ : c = '"'
  · subst h₄
    rfl
  simp only [h₁, h₂, h₃, h₄, if_false, List.flatMap_singleton]

/-- a character that starts or ends a tag or the value of an attribute -/
def isDelimiter (c : Char) : Bool := c = '<' || c = '>' || c = '"'

theorem isDelimiter_of_mem_entity {c x : Char} (h : x ∈ entity c) : isDelimiter x = false := by
  have hplain : ∀ {l : List Char}, (l.all fun y => !isDelimiter y) = true → x ∈ l → isDelimiter x = false :=
    fun hall hx => by simpa using List.all_eq_true.1 hall x hx
  unfold entity at h
  split_ifs at h with h₁ h₂ h₃ h₄
  · exact hplain rfl h
  · exact hplain rfl h
  · exact hplain rfl h
  · exact hplain rfl h
  · obtain rfl := List.mem_singleton.1 h
    simp [isDelimiter, h₂, h₃, h₄]

theorem isDelimiter_of_mem_escape {s : String} {x : Char} (h : x ∈ (escape s).toList) : isDelimiter x = false := by
  rw [toList_escape] at h
  obtain ⟨c, -, hx⟩ := List.mem_flatMap.1 h
  exact isDelimiter_of_mem_entity hx

theorem not_mem_escape {c : Char} (h : isDelimiter c = true) (s : String) : c ∉ (escape s).toList := by
  intro hmem
  rw [isDelimiter_of_mem_escape hmem] at h
  cases h

/-! ## Reading entities back -/

/-- every entity, taken from the left, gives way to what it stands for; all else stays -/
def unescapeChars : List Char → List Char
  | '&' :: 'a' :: 'm' :: 'p' :: ';' :: rest => '&' :: unescapeChars rest
  | '&' :: 'l' :: 't' :: ';' :: rest => '<' :: unescapeChars rest
  | '&' :: 'g' :: 't' :: ';' :: rest => '>' :: unescapeChars rest
  | '&' :: 'q' :: 'u' :: 'o' :: 't' :: ';' :: rest => '"' :: unescapeChars rest
  | c :: rest => c :: unescapeChars rest
  | [] => []

def unescape (s : String) : String := String.ofList (unescapeChars s.toList)

theorem unescapeChars_cons {c : Char} (h : c ≠ '&') (rest : List Char) :
    unescapeChars (c :: rest) = c :: unescapeChars rest := by
  rw [unescapeChars]
  -- no entity starts with another character
  all_goals
    intro _ hamp
    exact absurd hamp h

/-- what is written for a character is read as this character -/
theorem unescapeChars_entity_append (c : Char) (rest : List Char) :
    unescapeChars (entity c ++ rest) = c :: unescapeChars rest := by
  unfold entity
  split_ifs with hamp hlt hgt hquot
  · subst hamp
    rfl
  · subst hlt
    rfl
  · subst hgt
    rfl
  · subst hquot
    rfl
  · exact unescapeChars_cons hamp rest

theorem unescapeChars_flatMap_entity (cs : List Char) : unescapeChars (cs.flatMap entity) = cs := by
  induction cs with
  | nil => rfl
  | cons c cs ih => rw [List.flatMap_cons, unescapeChars_entity_append, ih]

theorem unescape_escape (s : String) : unescape (escape s) = s := by
  rw [unescape, toList_escape, unescapeChars_flatMap_entity, String.ofList_toList]

theorem escape_injective : Function.Injective escape := Function.LeftInverse.injective unescape_escape

theorem escape_append (a b : String) : escape (a ++ b) = escape a ++ escape b := by
  apply String.toList_inj.1
  rw [String.toList_append, toList_escape, toList_escape, toList_escape, String.toList_append, List.flatMap_append]

/-- elements that differ in their character data only are written differently -/
theorem Element.render_content_inj (e : Element) {a b : String} :
    Element.render { e with content := some a } = Element.render { e with content := some b } ↔ a = b := by
  simp only [Element.render, String.append_left_inj, String.append_right_inj, escape_injective.eq_iff]

/-- **Escaping is faithful.** It is one map of the characters, so a text is escaped part by part; it leaves no
delimiter; the entities are read back as the text; and so neither two texts nor two elements with them are ever written
alike. -/
theorem escape_faithful (s t : String) (e : Element) :
    (escape s).toList = s.toList.flatMap entity ∧ escape (s ++ t) = escape s ++ escape t ∧
      ('<' ∉ (escape s).toList ∧ '>' ∉ (escape s).toList ∧ '"' ∉ (escape s).toList) ∧
      unescape (escape s) = s ∧ (escape s = escape t ↔ s = t) ∧
      (Element.render { e with content := some s } = Element.render { e with content := some t } ↔ s = t) :=
  ⟨toList_escape s, escape_append s t, ⟨not_mem_escape rfl s, not_mem_escape rfl s, not_mem_escape rfl s⟩,
    unescape_escape s, escape_injective.eq_iff, e.render_content_inj⟩

end Page

end Benchwork
