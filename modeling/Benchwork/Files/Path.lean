/-
Paths.

A path is a byte string, because a directory may have a name that is no text. It is shown and compared as it was
written: `join` puts a slash between two paths where one is needed and nothing else is tidied up. Its components are
what the slashes separate, without empty segments and without `.`, except at the very start; `parent?`, `fileName?`
and `fileStem?` speak of the last of them.
-/
import Benchwork.Text.Blank
import Benchwork.Text.Quoted

namespace Benchwork

open Benchwork.Text

/-- the name of a directory entry -/
abbrev Name := List UInt8

structure Path where
  bytes : List UInt8
  deriving DecidableEq, Repr

namespace Path

def slash : UInt8 := 0x2F

def dot : UInt8 := 0x2E

def ofString (s : String) : Path := ⟨Utf8.encode s⟩

/-- the path as text, if it is one -/
def text? (p : Path) : Option String := Utf8.decode? p.bytes

/-- the path as text, with a replacement character for what is none -/
def display (p : Path) : String := Utf8.lossy p.bytes

/-- the path as messages quote it -/
def quoted (p : Path) : String := quoteBytes p.bytes

def isAbsolute (p : Path) : Bool := p.bytes.head? = some slash

/-- `q` seen from `p`; an absolute `q` stands for itself -/
def join (p q : Path) : Path :=
  if q.isAbsolute then q
  else if p.bytes = [] ∨ p.bytes.getLast? = some slash then ⟨p.bytes ++ q.bytes⟩
  else ⟨p.bytes ++ slash :: q.bytes⟩

/-! ## Components -/

inductive Component where
  | root
  | here
  | up
  | name (n : Name)
  deriving DecidableEq, Repr

def Component.ofSegment (s : Name) : Component :=
  if s = [dot] then .here else if s = [dot, dot] then .up else .name s

/-- a segment that counts: neither empty nor `.` -/
def isProper (s : Name) : Bool := s ≠ [] ∧ s ≠ [dot]

/-- the components of a path; a `.` is one only where the path starts with it -/
def components (p : Path) : List Component :=
  let segments := p.bytes.splitOn slash
  let lead : List Component :=
    if p.isAbsolute then [.root] else if segments.head? = some [dot] then [.here] else []
  lead ++ (segments.filter isProper).map Component.ofSegment

/-- how many components a path has -/
def depth (p : Path) : Nat := p.components.length

/-! ## The last component

These functions read a path from its end, so they work on its bytes in reverse. -/

/-- without the slashes and `/.` at the end -/
def trimReversed : List UInt8 → List UInt8
  | [] => []
  | [c] => [c]
  | c :: d :: rest =>
    if c = slash then trimReversed (d :: rest)
    else if c = dot ∧ d = slash then trimReversed (d :: rest)
    else c :: d :: rest

/-- the last segment of a path, backwards -/
def lastReversed (p : Path) : List UInt8 := (trimReversed p.bytes.reverse).takeWhile (· ≠ slash)

/-- the path without its last component; none for the empty path and the root -/
def parent? (p : Path) : Option Path :=
  let trimmed := trimReversed p.bytes.reverse
  if trimmed = [] ∨ trimmed = [slash] then none
  else some ⟨(trimReversed (trimmed.dropWhile (· ≠ slash))).reverse⟩

theorem length_trimReversed_le (l : List UInt8) : (trimReversed l).length ≤ l.length := by
  fun_induction trimReversed l with
  | case1 => exact Nat.le_refl _
  | case2 => exact Nat.le_refl _
  | case3 d rest ih => exact Nat.le_succ_of_le ih
  | case4 c d rest _ _ ih => exact Nat.le_succ_of_le ih
  | case5 => exact Nat.le_refl _

/-- a trimmed path is a single byte or does not end in a slash -/
theorem head_trimReversed {l rest : List UInt8} {c : UInt8} (h : trimReversed l = c :: rest) : c ≠ slash ∨ rest = [] := by
  fun_induction trimReversed l with
  | case1 => exact absurd h (by simp)
  | case2 d => exact Or.inr (List.cons.inj h).2.symm
  | case3 _ _ ih => exact ih h
  | case4 _ _ _ _ _ ih => exact ih h
  | case5 d e tail hd _ => exact Or.inl ((List.cons.inj h).1 ▸ hd)

/-- the parent of a path is shorter than the path -/
theorem length_parent_lt {p q : Path} (h : p.parent? = some q) : q.bytes.length < p.bytes.length := by
  simp only [parent?] at h
  split at h
  · exact absurd h (by simp)
  · rename_i hne
    cases ht : trimReversed p.bytes.reverse with
    | nil => exact absurd (Or.inl ht) hne
    | cons c rest =>
      have hc : c ≠ slash := by
        rcases head_trimReversed ht with hc | hr
        · exact hc
        · intro hc
          exact hne (Or.inr (by rw [ht, hc, hr]))
      have hq : q.bytes.length = (trimReversed (rest.dropWhile (fun x => decide (x ≠ slash)))).length := by
        rw [ht] at h
        rw [← Option.some.inj h]
        simp [hc]
      have h1 : (trimReversed (rest.dropWhile (fun x => decide (x ≠ slash)))).length ≤ rest.length :=
        Nat.le_trans (length_trimReversed_le _) (List.dropWhile_suffix _).length_le
      have h2 : rest.length + 1 ≤ p.bytes.length := by
        have h3 := length_trimReversed_le p.bytes.reverse
        rw [ht, List.length_reverse] at h3
        exact h3
      omega

/-- the last component, if it is a name -/
def fileName? (p : Path) : Option Name :=
  let last := (lastReversed p).reverse
  if last = [] ∨ last = [dot] ∨ last = [dot, dot] then none else some last

/-- the last component up to its last dot, a dot at its start apart -/
def fileStem? (p : Path) : Option Name :=
  p.fileName?.map fun n =>
    match (n.reverse.dropWhile (· ≠ dot)) with
    | [] => n
    | [_] => n
    | _ :: before => before.reverse

/-! ## Absolute paths -/

/-- the path made absolute against the directory `cwd`, without empty and `.` segments; `..` stays, and so does a
double slash at the start -/
def absolute (cwd p : Path) : Path :=
  let lead : List UInt8 :=
    if !p.isAbsolute then cwd.bytes
    else if p.bytes.take 2 = [slash, slash] ∧ p.bytes[2]? ≠ some slash then [slash, slash] else [slash]
  let segments := (p.bytes.splitOn slash).filter isProper
  let whole := segments.foldl (fun q s => join q ⟨s⟩) ⟨lead⟩
  if p.bytes.getLast? = some slash then join whole ⟨[]⟩ else whole

end Path

end Benchwork
