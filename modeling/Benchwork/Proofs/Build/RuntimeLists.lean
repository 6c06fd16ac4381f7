/-
Lists of runtimes that are written and read.

A runtime is written `NAME=HOME`, and a list of them has commas between its items. Blanks may stand around every name and
every home, and blank items between the others say nothing (`Lists`). What a runtime is written from has to be
recognisable: `Clean` and `Listable` say which names and homes are.

A text is read as a list of runtimes exactly if they are listable and it lists them
(`parseList_reads_what_lists_runtimes`). So what is written reads back whatever the padding, and nothing else is ever read.
-/
import Benchwork.Build.JavaRuntime
import Benchwork.Proofs.Text.Padding
import Benchwork.Proofs.Text.Words

namespace Benchwork.Build.JavaRuntime

open Benchwork.Text

/-! ## One runtime -/

/-- a name and a home with something in them and no blank at either end; the name has no equality sign -/
structure Clean (r : JavaRuntime) : Prop where
  name_ne_nil : r.name.toList ≠ []
  name_bare : Bare r.name.toList
  name_unequal : '=' ∉ r.name.toList
  home_ne_nil : r.home.toList ≠ []
  home_bare : Bare r.home.toList

/-- `NAME=HOME`, with blanks around both parts -/
def Writes (r : JavaRuntime) (item : List Char) : Prop :=
  ∃ name home, item = name ++ '=' :: home ∧ Padded r.name.toList name ∧ Padded r.home.toList home

theorem not_isBlank_equals : isBlank '=' = false := by simp [isBlank]

theorem not_isBlank_comma : isBlank ',' = false := by simp [isBlank]

theorem Writes.not_blank {r : JavaRuntime} {item : List Char} (h : r.Writes item) : item.all isBlank = false := by
  obtain ⟨name, home, rfl, -, -⟩ := h
  rw [List.all_eq_false]
  exact ⟨'=', by simp, by simp [not_isBlank_equals]⟩

/-- a text is read as a runtime exactly if it is one with blanks around its parts -/
theorem parseChars_eq_ok_iff {item : List Char} {r : JavaRuntime} :
    parseChars item = .ok r ↔ r.Clean ∧ r.Writes item := by
  constructor
  · intro h
    rw [parseChars] at h
    split at h
    · rename_i name home hcut
      obtain ⟨rfl, hequals⟩ := cutAt_eq_some_iff.1 hcut
      split_ifs at h with hne
      obtain rfl := Except.ok.inj h
      have hname : '=' ∉ trimChars name := fun hmem => hequals ((padded_trimChars name).mem_of_mem hmem)
      refine ⟨⟨?_, ?_, ?_, ?_, ?_⟩, name, home, rfl, ?_, ?_⟩ <;> rw [String.toList_ofList]
      · exact hne.1
      · exact bare_trimChars name
      · exact hname
      · exact hne.2
      · exact bare_trimChars home
      · exact padded_trimChars name
      · exact padded_trimChars home
    · cases h
  · rintro ⟨hclean, name, home, rfl, hname, hhome⟩
    have hequals : '=' ∉ name := fun hmem =>
      (hname.mem hmem).elim hclean.name_unequal (by simp [not_isBlank_equals])
    rw [parseChars, cutAt_append hequals]
    simp only [trimChars_eq_iff.2 ⟨hclean.name_bare, hname⟩, trimChars_eq_iff.2 ⟨hclean.home_bare, hhome⟩]
    rw [if_pos ⟨hclean.name_ne_nil, hclean.home_ne_nil⟩, String.ofList_toList, String.ofList_toList]

/-! ## Items of a list -/

/-- the items that list some runtimes: each is written once and in order, with blank items anywhere between them -/
inductive Lists : List (List Char) → List JavaRuntime → Prop
  | nil : Lists [] []
  | blank {item : List Char} {items : List (List Char)} {runtimes : List JavaRuntime}
      (h : ∀ c ∈ item, isBlank c = true) : Lists items runtimes → Lists (item :: items) runtimes
  | runtime {item : List Char} {items : List (List Char)} {r : JavaRuntime} {runtimes : List JavaRuntime}
      (h : r.Writes item) : Lists items runtimes → Lists (item :: items) (r :: runtimes)

def solidItems (items : List (List Char)) : List (List Char) := items.filter fun item => !item.all isBlank

theorem solidItems_cons_blank {item : List Char} (h : ∀ c ∈ item, isBlank c = true) (items : List (List Char)) :
    solidItems (item :: items) = solidItems items :=
  List.filter_cons_of_neg (by simpa using h)

theorem solidItems_cons_solid {item : List Char} (h : item.all isBlank = false) (items : List (List Char)) :
    solidItems (item :: items) = item :: solidItems items :=
  List.filter_cons_of_pos (by simp [h])

theorem parseEach_cons (item : List Char) (items : List (List Char)) :
    parseEach (item :: items) = (parseChars item).bind fun r => (parseEach items).map (r :: ·) := by
  rw [parseEach, List.mapM_cons, parseEach]
  rfl

theorem Lists.parseEach_eq_ok {items : List (List Char)} {runtimes : List JavaRuntime} (h : Lists items runtimes)
    (hclean : ∀ r ∈ runtimes, r.Clean) : parseEach (solidItems items) = .ok runtimes := by
  induction h with
  | nil => rfl
  | blank hblank _ ih =>
    rw [solidItems_cons_blank hblank]
    exact ih hclean
  | runtime hwrites _ ih =>
    obtain ⟨hr, hrest⟩ := List.forall_mem_cons.1 hclean
    rw [solidItems_cons_solid hwrites.not_blank, parseEach_cons, parseChars_eq_ok_iff.2 ⟨hr, hwrites⟩, ih hrest]
    rfl

theorem lists_of_parseEach_eq_ok {items : List (List Char)} {runtimes : List JavaRuntime}
    (h : parseEach (solidItems items) = .ok runtimes) : (∀ r ∈ runtimes, r.Clean) ∧ Lists items runtimes := by
  induction items generalizing runtimes with
  | nil =>
    obtain rfl := Except.ok.inj (show Except.ok [] = Except.ok runtimes from h)
    exact ⟨by simp, .nil⟩
  | cons item items ih =>
    by_cases hblank : ∀ c ∈ item, isBlank c = true
    · rw [solidItems_cons_blank hblank] at h
      exact ⟨(ih h).1, .blank hblank (ih h).2⟩
    · have hsolid : item.all isBlank = false := by simpa using hblank
      rw [solidItems_cons_solid hsolid, parseEach_cons] at h
      cases hitem : parseChars item with
      | error e => rw [hitem] at h; cases h
      | ok r =>
        cases hitems : parseEach (solidItems items) with
        | error e => rw [hitem, hitems] at h; cases h
        | ok rest =>
          rw [hitem, hitems] at h
          obtain rfl := Except.ok.inj h
          obtain ⟨hr, hwrites⟩ := parseChars_eq_ok_iff.1 hitem
          exact ⟨List.forall_mem_cons.2 ⟨hr, (ih hitems).1⟩, .runtime hwrites (ih hitems).2⟩

/-! ## Lists -/

/-- a runtime that can stand in a list: there is no comma in it either -/
structure Listable (r : JavaRuntime) : Prop extends Clean r where
  name_no_comma : ',' ∉ r.name.toList
  home_no_comma : ',' ∉ r.home.toList

/-- commas in the text of a runtime are commas of its name or its home -/
theorem Writes.comma_mem_iff {r : JavaRuntime} {item : List Char} (h : r.Writes item) :
    ',' ∈ item ↔ ',' ∈ r.name.toList ∨ ',' ∈ r.home.toList := by
  obtain ⟨name, home, rfl, hname, hhome⟩ := h
  have hpadded : ∀ {t cs : List Char}, Padded t cs → (',' ∈ cs ↔ ',' ∈ t) := fun hpad =>
    ⟨fun hmem => (hpad.mem hmem).resolve_right (by simp [not_isBlank_comma]), hpad.mem_of_mem⟩
  simp [hpadded hname, hpadded hhome]

theorem Lists.no_comma {items : List (List Char)} {runtimes : List JavaRuntime} (h : Lists items runtimes)
    (hlistable : ∀ r ∈ runtimes, r.Listable) : ∀ item ∈ items, ',' ∉ item := by
  induction h with
  | nil => simp
  | blank hblank _ ih =>
    refine List.forall_mem_cons.2 ⟨fun hmem => ?_, ih hlistable⟩
    simpa [not_isBlank_comma] using hblank ',' hmem
  | runtime hwrites _ ih =>
    obtain ⟨hr, hrest⟩ := List.forall_mem_cons.1 hlistable
    refine List.forall_mem_cons.2 ⟨fun hmem => ?_, ih hrest⟩
    exact (hwrites.comma_mem_iff.1 hmem).elim hr.name_no_comma hr.home_no_comma

theorem Lists.listable {items : List (List Char)} {runtimes : List JavaRuntime} (h : Lists items runtimes)
    (hclean : ∀ r ∈ runtimes, r.Clean) (hcomma : ∀ item ∈ items, ',' ∉ item) : ∀ r ∈ runtimes, r.Listable := by
  induction h with
  | nil => simp
  | blank _ _ ih => exact ih hclean (List.forall_mem_cons.1 hcomma).2
  | runtime hwrites _ ih =>
    obtain ⟨hr, hrest⟩ := List.forall_mem_cons.1 hclean
    obtain ⟨hitem, hitems⟩ := List.forall_mem_cons.1 hcomma
    rw [hwrites.comma_mem_iff, not_or] at hitem
    exact List.forall_mem_cons.2 ⟨⟨hr, hitem.1, hitem.2⟩, ih hrest hitems⟩

/-- **What lists runtimes is read as them, and nothing else.** A text is read as a list of runtimes exactly if names
and homes are listable and it is their items with commas in between: each `NAME=HOME` with blanks around name and home,
in order, and any number of blank items among them. -/
theorem parseList_reads_what_lists_runtimes (text : String) (runtimes : List JavaRuntime) :
    parseList text = .ok runtimes ↔
      (∀ r ∈ runtimes, r.Listable) ∧ ∃ items, text.toList = [','].intercalate items ∧ Lists items runtimes := by
  change parseEach (solidItems (text.toList.splitOn ',')) = _ ↔ _
  constructor
  · intro h
    obtain ⟨hclean, hlists⟩ := lists_of_parseEach_eq_ok h
    refine ⟨hlists.listable hclean fun item hitem => not_mem_of_mem_splitOn hitem, _, ?_, hlists⟩
    exact (List.intercalate_splitOn ',').symm
  · rintro ⟨hlistable, items, htext, hlists⟩
    have hclean : ∀ r ∈ runtimes, r.Clean := fun r hr => (hlistable r hr).toClean
    cases items with
    | nil =>
      -- no items at all is the empty text, which has one blank item
      rw [htext]
      exact (Lists.blank (by simp) hlists).parseEach_eq_ok hclean
    | cons item items =>
      rw [htext, List.splitOn_intercalate ',' (hlists.no_comma hlistable) (List.cons_ne_nil _ _)]
      exact hlists.parseEach_eq_ok hclean

example : parseList " ,\tjdk 17 = /opt/a=b ,, jdk8=/opt/jdk8" = .ok [⟨"jdk 17", "/opt/a=b"⟩, ⟨"jdk8", "/opt/jdk8"⟩] := by
  decide +kernel

end Benchwork.Build.JavaRuntime
