/-
Finding and replacing a fixed text inside another.

`replaceAll` works from left to right and never looks again at what it wrote, so the occurrences it replaces do not
overlap. `occursIn` says whether a text has another one inside it; `dropStart?` and `dropEnd?` take a text off an end
if it stands there.
-/

namespace Benchwork.Text

/-- every occurrence of `pat`, taken from the left without overlap, gives way to `sub`; an empty `pat` occurs nowhere -/
def replaceAll (pat sub : List Char) (cs : List Char) : List Char :=
  match cs with
  | [] => []
  | c :: rest =>
    if _h : pat ≠ [] ∧ pat.isPrefixOf (c :: rest) then
      sub ++ replaceAll pat sub ((c :: rest).drop pat.length)
    else c :: replaceAll pat sub rest
termination_by cs.length
decreasing_by
  · have : 0 < pat.length := List.length_pos_iff.mpr _h.1
    simp only [List.length_drop, List.length_cons]
    omega
  · simp

def replace (pat sub s : String) : String := String.ofList (replaceAll pat.toList sub.toList s.toList)

/-- `pat` stands somewhere in the text -/
def occursIn (pat : List Char) : List Char → Bool
  | [] => pat.isEmpty
  | c :: cs => pat.isPrefixOf (c :: cs) || occursIn pat cs

def contains (pat s : String) : Bool := occursIn pat.toList s.toList

/-- the text after `pat`, if it starts with it -/
def dropStart? (pat s : String) : Option String :=
  if pat.toList.isPrefixOf s.toList then some (String.ofList (s.toList.drop pat.toList.length)) else none

/-- the text before `pat`, if it ends with it -/
def dropEnd? (pat s : String) : Option String :=
  if pat.toList.isSuffixOf s.toList then
    some (String.ofList (s.toList.take (s.toList.length - pat.toList.length)))
  else none

end Benchwork.Text
