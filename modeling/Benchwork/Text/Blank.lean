/-
Blank characters and what is cut at them.

A character is blank when it has the White_Space property. `trim` drops the blanks around a text, `words` gives the
maximal runs without a blank, `cutAt` cuts at the first occurrence of a character, and `lines` cuts a text into lines: a
line ends at a newline, one carriage return right before that newline goes with it, and nothing follows a final newline.

All functions work on lists of characters, where they are plain recursions; the versions on `String` wrap them.
-/

namespace Benchwork.Text

/-! ## Blanks -/

/-- has the White_Space property -/
def isBlank (c : Char) : Bool :=
  let n := c.toNat
  (0x09 ≤ n && n ≤ 0x0D) || n == 0x20 || n == 0x85 || n == 0xA0 || n == 0x1680 ||
    (0x2000 ≤ n && n ≤ 0x200A) || n == 0x2028 || n == 0x2029 || n == 0x202F || n == 0x205F || n == 0x3000

/-- without the blanks at the end -/
def dropEndWhile (p : Char → Bool) (cs : List Char) : List Char := (cs.reverse.dropWhile p).reverse

/-- without the blanks on either side -/
def trimChars (cs : List Char) : List Char := dropEndWhile isBlank (cs.dropWhile isBlank)

def trim (s : String) : String := String.ofList (trimChars s.toList)

/-- nothing but blanks -/
def isBlankText (s : String) : Bool := s.toList.all isBlank

/-! ## Words -/

/-- the maximal runs of characters that are not blank, in order -/
def wordsOf (cs : List Char) : List (List Char) :=
  match _h : cs.dropWhile isBlank with
  | [] => []
  | c :: rest =>
    (c :: rest.takeWhile (!isBlank ·)) :: wordsOf (rest.dropWhile (!isBlank ·))
termination_by cs.length
decreasing_by
  have h1 : (cs.dropWhile isBlank).length ≤ cs.length := (List.dropWhile_suffix _).length_le
  have h2 : (rest.dropWhile (!isBlank ·)).length ≤ rest.length := (List.dropWhile_suffix _).length_le
  rw [_h, List.length_cons] at h1
  omega

theorem wordsOf_cons_blank {b : Char} (hb : isBlank b = true) (rest : List Char) :
    wordsOf (b :: rest) = wordsOf rest := by
  rw [wordsOf.eq_def (b :: rest), wordsOf.eq_def rest, List.dropWhile_cons_of_pos hb]

/-- a word with a blank behind it is the first word -/
theorem wordsOf_append_blank {w : List Char} (hne : w ≠ []) (hw : ∀ c ∈ w, isBlank c = false) {b : Char}
    (hb : isBlank b = true) (rest : List Char) : wordsOf (w ++ b :: rest) = w :: wordsOf (b :: rest) := by
  cases w with
  | nil => exact absurd rfl hne
  | cons c cs =>
    have hc : isBlank c = false := hw c List.mem_cons_self
    have hcs : ∀ d ∈ cs, (!isBlank d) = true := fun d hd => by simp [hw d (List.mem_cons_of_mem c hd)]
    rw [wordsOf]
    split
    · rename_i h
      simp [hc] at h
    · rename_i d tail h
      simp only [List.cons_append, List.dropWhile_cons, hc, Bool.false_eq_true, if_false, List.cons.injEq] at h
      obtain ⟨rfl, rfl⟩ := h
      simp [List.takeWhile_append_of_pos hcs, List.dropWhile_append_of_pos hcs, hb]

def words (s : String) : List String := (wordsOf s.toList).map String.ofList

/-! ## Cutting at a character -/

/-- what stands before and after the first `sep`, if there is one -/
def cutAt {α : Type} [DecidableEq α] (sep : α) : List α → Option (List α × List α)
  | [] => none
  | c :: cs => if c = sep then some ([], cs) else (cutAt sep cs).map fun (a, b) => (c :: a, b)

/-! ## Lines -/

/-- without one carriage return at the end -/
def dropReturn (line : List Char) : List Char :=
  if line.getLast? = some '\r' then line.dropLast else line

/-- the lines of a text, without their ends -/
def linesOf (cs : List Char) : List (List Char) :=
  match cs with
  | [] => []
  | c :: rest =>
    let line := (c :: rest).takeWhile (· ≠ '\n')
    match _h : (c :: rest).dropWhile (· ≠ '\n') with
    | [] => [line]
    | _ :: more => dropReturn line :: linesOf more
termination_by cs.length
decreasing_by
  have h1 : ((c :: rest).dropWhile (fun x => decide (x ≠ '\n'))).length ≤ (c :: rest).length :=
    (List.dropWhile_suffix _).length_le
  rw [_h] at h1
  simp only [List.length_cons] at h1 ⊢
  omega

def lines (s : String) : List String := (linesOf s.toList).map String.ofList

end Benchwork.Text
