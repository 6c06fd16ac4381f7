/-
Words and pieces.

The first word of a line stands behind blanks and before a blank or the end (`wordsOf_eq_cons`). So a line stays in one
piece exactly if it has no blank (`wordsOf_eq_singleton`), and it has two words exactly if it is two such pieces with
blanks between them and perhaps around them (`wordsOf_eq_pair`). `HasWords` says the same of any number of words
(`wordsOf_eq_iff`), and words with one space between them are read back (`words_intercalate`).

No piece between separators has a separator in it (`not_mem_of_mem_splitOn`), and everything else is in some piece
(`forall_mem_splitOn`). The last piece is the text without separators that stands at the end, behind a separator if
there is one (`lastPiece_eq_iff`); two such texts are the last two pieces exactly if they stand at the end with a
separator between them (`exists_splitOn_eq_pair`).

Bytes are `Unbroken` if they are a text without blanks. They are so exactly if the pieces between the separators are, for
a separator that is an ASCII character and no blank (`IsSeparator.unbroken_splitOn`).
-/
import Mathlib.Data.List.TakeWhile
import Mathlib.Tactic
import Benchwork.Proofs.Text.Utf8
import Benchwork.Text.Blank

namespace Benchwork.Text

/-! ## Words -/

/-- a text that is one word: there is something in it, and no blank -/
structure IsWord (w : List Char) : Prop where
  ne_nil : w ≠ []
  solid : ∀ c ∈ w, isBlank c = false

theorem wordsOf_eq_nil {cs : List Char} : wordsOf cs = [] ↔ ∀ c ∈ cs, isBlank c = true := by
  rw [← List.dropWhile_eq_nil_iff, wordsOf]
  split
  · rename_i h
    simp [h]
  · rename_i c rest h
    simp [h]

/-- the first word stands behind blanks, and before a blank or the end -/
theorem wordsOf_eq_cons {cs w : List Char} {ws : List (List Char)} :
    wordsOf cs = w :: ws ↔ ∃ before rest, cs = before ++ (w ++ rest) ∧ (∀ c ∈ before, isBlank c = true) ∧ IsWord w ∧
      (∀ c ∈ rest.head?, isBlank c = true) ∧ wordsOf rest = ws := by
  constructor
  · intro h
    rw [wordsOf] at h
    split at h
    · cases h
    · rename_i c rest hdrop
      obtain ⟨rfl, rfl⟩ := List.cons.inj h
      have hc : isBlank c = false := by
        have hhead := List.head?_dropWhile_not isBlank cs
        rw [hdrop] at hhead
        simpa using hhead
      have hword : IsWord (c :: rest.takeWhile (!isBlank ·)) :=
        ⟨List.cons_ne_nil _ _, List.forall_mem_cons.2 ⟨hc, fun d hd => by simpa using List.mem_takeWhile_imp hd⟩⟩
      refine ⟨cs.takeWhile isBlank, rest.dropWhile (!isBlank ·), ?_, fun c hc => List.mem_takeWhile_imp hc, hword,
        fun d hd => ?_, rfl⟩
      · rw [List.cons_append, List.takeWhile_append_dropWhile, ← hdrop, List.takeWhile_append_dropWhile]
      · have hhead := List.head?_dropWhile_not (fun c => !isBlank c) rest
        rw [hd] at hhead
        simpa using hhead
  · rintro ⟨before, rest, rfl, hbefore, hword, hrest, rfl⟩
    obtain ⟨c, w, rfl⟩ := List.exists_cons_of_ne_nil hword.ne_nil
    obtain ⟨hc, hw⟩ := List.forall_mem_cons.1 hword.solid
    have hsolid : ∀ d ∈ w, (!isBlank d) = true := fun d hd => by simp [hw d hd]
    have hstop : rest.takeWhile (!isBlank ·) = [] ∧ rest.dropWhile (!isBlank ·) = rest := by
      cases rest with
      | nil => exact ⟨rfl, rfl⟩
      | cons d rest => simp [hrest d rfl]
    rw [wordsOf, List.dropWhile_append_of_pos hbefore]
    split
    · rename_i h
      simp [hc] at h
    · rename_i d tail h
      rw [List.cons_append, List.dropWhile_cons_of_neg (by simp [hc])] at h
      obtain ⟨rfl, rfl⟩ := List.cons.inj h
      rw [List.takeWhile_append_of_pos hsolid, List.dropWhile_append_of_pos hsolid, hstop.1, hstop.2, List.append_nil]

/-- a line is one word exactly if there is something in it, and no blank -/
theorem wordsOf_eq_singleton {cs : List Char} : wordsOf cs = [cs] ↔ IsWord cs := by
  rw [wordsOf_eq_cons]
  constructor
  · rintro ⟨_, _, -, -, hword, -⟩
    exact hword
  · intro hword
    exact ⟨[], [], by simp, by simp, hword, by simp, wordsOf_eq_nil.2 (by simp)⟩

/-- a line of two words: they have blanks between them, and perhaps around them -/
theorem wordsOf_eq_pair {cs u v : List Char} :
    wordsOf cs = [u, v] ↔ IsWord u ∧ IsWord v ∧ ∃ before between after, cs = before ++ u ++ between ++ v ++ after ∧
      between ≠ [] ∧ ∀ c ∈ before ++ between ++ after, isBlank c = true := by
  simp only [wordsOf_eq_cons, wordsOf_eq_nil, List.forall_mem_append]
  constructor
  · rintro ⟨before, _, rfl, hbefore, hu, hrest, between, after, rfl, hbetween, hv, -, hafter⟩
    refine ⟨hu, hv, before, between, after, by simp, ?_, ⟨hbefore, hbetween⟩, hafter⟩
    -- the second word does not start with a blank
    rintro rfl
    obtain ⟨c, v, rfl⟩ := List.exists_cons_of_ne_nil hv.ne_nil
    exact absurd (hrest c rfl) (by simp [hv.solid c List.mem_cons_self])
  · rintro ⟨hu, hv, before, between, after, rfl, hne, ⟨hbefore, hbetween⟩, hafter⟩
    obtain ⟨b, between, rfl⟩ := List.exists_cons_of_ne_nil hne
    refine ⟨before, (b :: between) ++ (v ++ after), by simp, hbefore, hu, ?_, b :: between, after, rfl, hbetween, hv, ?_,
      hafter⟩
    · rintro c hc
      obtain rfl : b = c := Option.some.inj hc
      exact hbetween b List.mem_cons_self
    · exact fun c hc => hafter c (List.mem_of_mem_head? hc)

/-- the words that a text is made of: they have blanks between them, and perhaps around them -/
inductive HasWords : List Char → List (List Char) → Prop
  | blank {cs : List Char} (h : ∀ c ∈ cs, isBlank c = true) : HasWords cs []
  | word {before w rest : List Char} {ws : List (List Char)} (hbefore : ∀ c ∈ before, isBlank c = true) (hw : IsWord w)
      (hrest : ∀ c ∈ rest.head?, isBlank c = true) (h : HasWords rest ws) : HasWords (before ++ (w ++ rest)) (w :: ws)

theorem wordsOf_eq_iff {cs : List Char} {ws : List (List Char)} : wordsOf cs = ws ↔ HasWords cs ws := by
  constructor
  · intro h
    induction ws generalizing cs with
    | nil => exact .blank (wordsOf_eq_nil.1 h)
    | cons w ws ih =>
      obtain ⟨before, rest, rfl, hbefore, hw, hrest, h⟩ := wordsOf_eq_cons.1 h
      exact .word hbefore hw hrest (ih h)
  · intro h
    induction h with
    | blank h => exact wordsOf_eq_nil.2 h
    | word hbefore hw hrest _ ih => exact wordsOf_eq_cons.2 ⟨_, _, rfl, hbefore, hw, hrest, ih⟩

theorem HasWords.isWord {cs : List Char} {ws : List (List Char)} (h : HasWords cs ws) : ∀ w ∈ ws, IsWord w := by
  induction h with
  | blank h => simp
  | word _ hw _ _ ih => exact List.forall_mem_cons.2 ⟨hw, ih⟩

/-- words with one space between them are read back -/
theorem wordsOf_intercalate {ws : List (List Char)} (h : ∀ w ∈ ws, IsWord w) :
    wordsOf ([' '].intercalate ws) = ws := by
  induction ws with
  | nil => exact wordsOf_eq_nil.2 (by simp)
  | cons w ws ih =>
    obtain ⟨hw, hws⟩ := List.forall_mem_cons.1 h
    cases ws with
    | nil => simpa using wordsOf_eq_singleton.2 hw
    | cons next ws =>
      rw [List.intercalate_cons_cons, List.append_assoc, List.singleton_append,
        wordsOf_append_blank hw.ne_nil hw.solid rfl, wordsOf_cons_blank rfl, ih hws]

theorem words_eq_iff {text : String} {ws : List String} :
    words text = ws ↔ HasWords text.toList (ws.map String.toList) := by
  rw [← wordsOf_eq_iff, words]
  constructor
  · rintro rfl
    simp [Function.comp_def]
  · intro h
    simp [h, Function.comp_def]

theorem isWord_of_mem_words {text w : String} (h : w ∈ words text) : IsWord w.toList :=
  (words_eq_iff.1 rfl).isWord w.toList (List.mem_map_of_mem h)

theorem words_intercalate {ws : List String} (h : ∀ w ∈ ws, IsWord w.toList) : words (" ".intercalate ws) = ws := by
  have hspace : " ".toList = [' '] := rfl
  rw [words, String.toList_intercalate, hspace, wordsOf_intercalate (by simpa using h)]
  simp [Function.comp_def]

/-- a flag with its value is one word exactly if the value has no blank -/
theorem words_append_eq_singleton {flag : String} (hne : flag ≠ "") (hflag : ∀ c ∈ flag.toList, isBlank c = false)
    (value : String) : words (flag ++ value) = [flag ++ value] ↔ ∀ c ∈ value.toList, isBlank c = false := by
  have hinj : Function.Injective (List.map String.ofList) := List.map_injective_iff.2 fun _ _ => String.ofList_inj.1
  have hwhole : [flag ++ value] = [(flag ++ value).toList].map String.ofList := by simp
  rw [words, hwhole, hinj.eq_iff, wordsOf_eq_singleton, String.toList_append]
  exact ⟨fun h => (List.forall_mem_append.1 h.solid).2, fun h => ⟨by simp [hne], List.forall_mem_append.2 ⟨hflag, h⟩⟩⟩

/-! ## Pieces between separators -/

theorem not_mem_of_mem_splitOn {α : Type} [DecidableEq α] {sep : α} {l piece : List α} (h : piece ∈ l.splitOn sep) :
    sep ∉ piece := by
  induction l generalizing piece with
  | nil =>
    obtain rfl := List.mem_singleton.1 h
    simp
  | cons c cs ih =>
    obtain ⟨first, pieces, hsplit⟩ := List.exists_cons_of_ne_nil (List.splitOn_ne_nil sep cs)
    rw [List.splitOn_cons_eq_if_modifyHead, hsplit] at h
    rw [hsplit] at ih
    by_cases hc : c = sep
    · rw [if_pos (by simpa using hc)] at h
      rcases List.mem_cons.1 h with rfl | h
      · simp
      · exact ih h
    · rw [if_neg (by simpa using hc)] at h
      rcases List.mem_cons.1 h with rfl | h
      · exact List.not_mem_cons_of_ne_of_not_mem (Ne.symm hc) (ih List.mem_cons_self)
      · exact ih (List.mem_cons_of_mem _ h)

/-- what holds of all that is in the pieces holds of all but the separators -/
theorem forall_mem_splitOn {α : Type} [DecidableEq α] {sep : α} {l : List α} {P : α → Prop} :
    (∀ piece ∈ l.splitOn sep, ∀ c ∈ piece, P c) ↔ ∀ c ∈ l, c = sep ∨ P c := by
  induction l with
  | nil => simp
  | cons c cs ih =>
    obtain ⟨piece, pieces, hsplit⟩ := List.exists_cons_of_ne_nil (List.splitOn_ne_nil sep cs)
    rw [List.splitOn_cons_eq_if_modifyHead, List.forall_mem_cons, ← ih, hsplit]
    by_cases hc : c = sep
    · simp [hc]
    · simp [hc, and_assoc]

def lastPiece {α : Type} [DecidableEq α] (sep : α) (l : List α) : List α := (l.reverse.takeWhile (· ≠ sep)).reverse

theorem not_mem_lastPiece {α : Type} [DecidableEq α] (sep : α) (l : List α) : sep ∉ lastPiece sep l := by
  intro h
  simpa using List.mem_takeWhile_imp (List.mem_reverse.1 h)

theorem eq_lastPiece_or {α : Type} [DecidableEq α] (sep : α) (l : List α) :
    l = lastPiece sep l ∨ ∃ before, l = before ++ sep :: lastPiece sep l := by
  have hsplit := List.takeWhile_append_dropWhile (p := fun c : α => decide (c ≠ sep)) (l := l.reverse)
  rw [lastPiece]
  cases hrest : l.reverse.dropWhile (· ≠ sep) with
  | nil =>
    rw [hrest, List.append_nil] at hsplit
    exact .inl (by rw [hsplit, List.reverse_reverse])
  | cons c before =>
    have hc := List.head?_dropWhile_not (fun c : α => decide (c ≠ sep)) l.reverse
    rw [hrest] at hc
    obtain rfl : c = sep := by simpa using hc
    rw [hrest] at hsplit
    exact .inr ⟨before.reverse, by simpa using (congrArg List.reverse hsplit).symm⟩

theorem splitOn_eq_append_lastPiece {α : Type} [DecidableEq α] (sep : α) (l : List α) :
    ∃ pieces, l.splitOn sep = pieces ++ [lastPiece sep l] := by
  have hlast := List.splitOn_eq_singleton (not_mem_lastPiece sep l)
  rcases eq_lastPiece_or sep l with h | ⟨before, h⟩
  · exact ⟨[], by rw [List.nil_append, ← hlast, ← h]⟩
  · exact ⟨before.splitOn sep, by rw [← hlast, ← List.splitOn_append_cons_self, ← h]⟩

theorem splitOn_eq_snoc {α : Type} [DecidableEq α] {sep : α} {l piece : List α} {pieces : List (List α)} :
    l.splitOn sep = pieces ++ [piece] ↔ sep ∉ piece ∧
      (l = piece ∧ pieces = [] ∨ ∃ before, l = before ++ sep :: piece ∧ before.splitOn sep = pieces) := by
  constructor
  · intro h
    have hpiece : sep ∉ piece := not_mem_of_mem_splitOn (l := l) (by simp [h])
    refine ⟨hpiece, ?_⟩
    rcases eq_lastPiece_or sep l with hlast | ⟨before, hbefore⟩
    · rw [hlast, List.splitOn_eq_singleton (not_mem_lastPiece sep l), ← hlast] at h
      obtain ⟨hnil, hsame⟩ := List.append_inj' (show [] ++ [l] = pieces ++ [piece] from h) rfl
      exact .inl ⟨List.singleton_injective hsame, hnil.symm⟩
    · have hsplit := List.splitOn_append_cons_self (a := sep) before (lastPiece sep l)
      rw [← hbefore, h, List.splitOn_eq_singleton (not_mem_lastPiece sep l)] at hsplit
      obtain ⟨hpieces, hsame⟩ := List.append_inj' hsplit rfl
      rw [← List.singleton_injective hsame] at hbefore
      exact .inr ⟨before, hbefore, hpieces.symm⟩
  · rintro ⟨hpiece, ⟨rfl, rfl⟩ | ⟨before, rfl, rfl⟩⟩
    · exact List.splitOn_eq_singleton hpiece
    · rw [List.splitOn_append_cons_self, List.splitOn_eq_singleton hpiece]

/-- the last piece is all of the text, or it stands behind a separator -/
theorem lastPiece_eq_iff {α : Type} [DecidableEq α] {sep : α} {l piece : List α} :
    lastPiece sep l = piece ↔ sep ∉ piece ∧ (l = piece ∨ ∃ before, l = before ++ sep :: piece) := by
  constructor
  · rintro rfl
    exact ⟨not_mem_lastPiece sep l, eq_lastPiece_or sep l⟩
  · rintro ⟨hpiece, hl⟩
    obtain ⟨pieces, hsplit⟩ : ∃ pieces, l.splitOn sep = pieces ++ [piece] := by
      rcases hl with rfl | ⟨before, rfl⟩
      · exact ⟨[], splitOn_eq_snoc.2 ⟨hpiece, .inl ⟨rfl, rfl⟩⟩⟩
      · exact ⟨before.splitOn sep, splitOn_eq_snoc.2 ⟨hpiece, .inr ⟨before, rfl, rfl⟩⟩⟩
    obtain ⟨pieces', hsplit'⟩ := splitOn_eq_append_lastPiece sep l
    exact List.singleton_injective (List.append_inj' (hsplit'.symm.trans hsplit) rfl).2

/-- the last two pieces, with anything before them -/
theorem exists_splitOn_eq_pair {α : Type} [DecidableEq α] {sep : α} {l a b : List α} :
    (∃ before, l.splitOn sep = before ++ [a, b]) ↔
      sep ∉ a ∧ sep ∉ b ∧ (l = a ++ sep :: b ∨ ∃ before, l = before ++ sep :: (a ++ sep :: b)) := by
  have hpair : ∀ before : List (List α), before ++ [a, b] = (before ++ [a]) ++ [b] := fun before => by simp
  simp only [hpair, splitOn_eq_snoc]
  constructor
  · rintro ⟨before, hb, ⟨-, hnil⟩ | ⟨rest, rfl, ha, ⟨rfl, rfl⟩ | ⟨rest, rfl, -⟩⟩⟩
    · simp at hnil
    · exact ⟨ha, hb, .inl rfl⟩
    · exact ⟨ha, hb, .inr ⟨rest, by simp⟩⟩
  · rintro ⟨ha, hb, rfl | ⟨before, rfl⟩⟩
    · exact ⟨[], hb, .inr ⟨a, rfl, ha, .inl ⟨rfl, rfl⟩⟩⟩
    · exact ⟨before.splitOn sep, hb, .inr ⟨before ++ sep :: a, by simp, ha, .inr ⟨before, rfl, rfl⟩⟩⟩

/-! ## Bytes without blanks -/

/-- the bytes are a text without blanks -/
def Unbroken (bytes : List UInt8) : Prop :=
  ∃ text, Utf8.decode? bytes = some text ∧ ∀ c ∈ text.toList, isBlank c = false

theorem mapM_char?_iff {ps : List Utf8.Piece} {P : Char → Prop} :
    (∃ cs, ps.mapM Utf8.Piece.char? = some cs ∧ ∀ c ∈ cs, P c) ↔ ∀ p ∈ ps, ∃ c, p = .char c ∧ P c := by
  induction ps with
  | nil => simp
  | cons p ps ih =>
    rw [List.forall_mem_cons, ← ih, List.mapM_cons]
    cases p with
    | char c => cases ps.mapM Utf8.Piece.char? <;> simp [Utf8.Piece.char?]
    | stray bytes => simp [Utf8.Piece.char?]

theorem unbroken_iff {bytes : List UInt8} :
    Unbroken bytes ↔ ∀ p ∈ Utf8.pieces bytes, ∃ c, p = .char c ∧ isBlank c = false := by
  rw [← mapM_char?_iff]
  simp [Unbroken, Utf8.decode?]

theorem unbroken_nil : Unbroken [] := unbroken_iff.2 (by simp [Utf8.pieces])

/-- a separator: an ASCII character, and no blank -/
structure IsSeparator (sep : UInt8) : Prop where
  ascii : sep < 0x80
  solid : isBlank (Char.ofNat sep.toNat) = false

theorem IsSeparator.unbroken_append {sep : UInt8} (hsep : IsSeparator sep) {a b : List UInt8} :
    Unbroken (a ++ sep :: b) ↔ Unbroken a ∧ Unbroken b := by
  have htail : Utf8.isTail sep = false := by
    have hlt := UInt8.lt_iff_toNat_lt.1 hsep.ascii
    rw [← Bool.not_eq_true, Utf8.isTail_iff]
    simp at hlt
    omega
  rw [unbroken_iff, unbroken_iff, unbroken_iff, Utf8.pieces_append htail, Utf8.pieces_cons_ascii hsep.ascii,
    List.forall_mem_append, List.forall_mem_cons]
  simp [hsep.solid]

/-- bytes are without blanks exactly if they are so between the separators -/
theorem IsSeparator.unbroken_splitOn {sep : UInt8} (hsep : IsSeparator sep) {bytes : List UInt8} :
    Unbroken bytes ↔ ∀ piece ∈ bytes.splitOn sep, Unbroken piece := by
  by_cases hmem : sep ∈ bytes
  · obtain ⟨a, b, rfl⟩ := List.append_of_mem hmem
    have ha : Unbroken a ↔ _ := hsep.unbroken_splitOn
    have hb : Unbroken b ↔ _ := hsep.unbroken_splitOn
    rw [hsep.unbroken_append, List.splitOn_append_cons_self, List.forall_mem_append, ← ha, ← hb]
  · rw [List.splitOn_eq_singleton hmem, List.forall_mem_singleton]
termination_by bytes.length

end Benchwork.Text
