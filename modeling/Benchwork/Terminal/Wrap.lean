/-
Wrapping text at words.

A line of symbols is cut into lines of a given width. Words stay whole if they fit, a word that does not is cut, and the
blanks at a cut are dropped. `step` takes one symbol: it moves a finished word to the line, gives out the line when it is
full, and keeps the symbol with the blanks or the word that it belongs to.
-/

namespace Benchwork.Terminal

namespace Wrap

variable {α : Type}

/-- the lines given out, the line begun, and the blanks and the word that come after it -/
structure State (α : Type) where
  done : List (List α) := []
  line : List α := []
  blanks : List α := []
  word : List α := []
  afterWord : Bool := false

/-- moves the word to the line, with the blanks before it unless it comes first -/
def State.settle (s : State α) : State α :=
  { s with line := (if s.line.isEmpty then [] else s.line ++ s.blanks) ++ s.word, blanks := [], word := [] }

/-- takes one symbol into account -/
def step (isBlank : α → Bool) (width : Nat) (s : State α) (a : α) : State α :=
  let blank := isBlank a
  let full := s.line.isEmpty && (s.word.length + 1 > width || s.blanks.length + 1 > width)
  let s := if (s.afterWord && blank) || full then s.settle else s
  let spent := s.line.length ≥ width || s.line.length + s.blanks.length + s.word.length ≥ width
  let s := if spent then
      { s with done := s.done ++ [s.line], line := [], blanks := s.blanks.drop (width - s.line.length) }
    else s
  if spent && blank && s.blanks.isEmpty then s
  else if blank then { s with blanks := s.blanks ++ [a], afterWord := false }
  else { s with word := s.word ++ [a], afterWord := true }

/-- the lines, with what was left over -/
def State.finish (s : State α) : List (List α) :=
  let done := if s.line.isEmpty && s.word.isEmpty && !s.blanks.isEmpty then s.done ++ [[]] else s.done
  let last := s.settle.line
  let done := if last.isEmpty then done else done ++ [last]
  if done.isEmpty then [[]] else done

end Wrap

/-- a line of symbols cut to a width -/
def wrap {α : Type} (isBlank : α → Bool) (width : Nat) (symbols : List α) : List (List α) :=
  (symbols.foldl (Wrap.step isBlank width) {}).finish

end Benchwork.Terminal
