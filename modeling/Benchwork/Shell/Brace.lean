/-
Alternatives in braces.

A word such as `a{b,c}d` stands for several words, one for each alternative, and `{1..3}` for the numbers of a range. Only
characters outside quotes count. A pair of braces with neither a comma nor a range is plain text.
-/
import Benchwork.Number.Whole
import Benchwork.Shell.Script

namespace Benchwork.Shell.Brace

/-- a piece of a word: a character outside quotes, or a part that is never taken apart -/
inductive Atom where
  | char (c : Char)
  | part (p : Part)

def atomsOf (w : Word) : List Atom :=
  w.flatMap fun
    | .text cs false => cs.map .char
    | p => [.part p]

/-- puts atoms together again -/
def wordOf : List Atom → Word
  | [] => []
  | .part p :: rest => p :: wordOf rest
  | .char c :: rest =>
    match wordOf rest with
    | .text cs false :: more => .text (c :: cs) false :: more
    | more => .text [c] false :: more

/-- the alternatives up to the closing brace, and what follows it -/
def alternatives (depth : Nat) (current : List Atom) (atoms : List Atom) : Option (List (List Atom) × List Atom) :=
  match atoms with
  | [] => none
  | .char '}' :: rest =>
    match depth with
    | 0 => some ([current.reverse], rest)
    | depth + 1 => alternatives depth (.char '}' :: current) rest
  | .char '{' :: rest => alternatives (depth + 1) (.char '{' :: current) rest
  | .char ',' :: rest =>
    if depth = 0 then (alternatives 0 [] rest).map fun (more, after) => (current.reverse :: more, after)
    else alternatives depth (.char ',' :: current) rest
  | a :: rest => alternatives depth (a :: current) rest

/-- the characters of atoms, if they are nothing else -/
def chars? (atoms : List Atom) : Option (List Char) :=
  atoms.mapM fun
    | .char c => some c
    | .part _ => none

/-- the numbers from `a` on in steps, at most `count` -/
def steps (a step : Int) (count : Nat) : List Int := (List.range count).map fun (i : Nat) => a + step * Int.ofNat i

/-- cuts at the first two dots -/
def cutDots : List Char → Option (List Char × List Char)
  | '.' :: '.' :: rest => some ([], rest)
  | c :: rest => (cutDots rest).map fun (a, b) => (c :: a, b)
  | [] => none

/-- a number with zeros in front up to a width -/
def padded (width : Nat) (n : Int) : List Char :=
  let digits := (toString n.natAbs).toList
  let sign := if n < 0 then ['-'] else []
  sign ++ List.replicate (width - sign.length - digits.length) '0' ++ digits

/-- the width that numbers written with leading zeros ask for -/
def widthOf (a b : List Char) : Nat :=
  let hasZeros := fun (cs : List Char) =>
    match cs with
    | '-' :: '0' :: _ :: _ | '0' :: _ :: _ => true
    | _ => false
  if hasZeros a || hasZeros b then max a.length b.length else 0

/-- the members of a range such as `1..3` or `a..e`, perhaps with a step -/
def range? (cs : List Char) : Option (List (List Char)) := do
  let (first, rest) ← cutDots cs
  let (last, step) ← match cutDots rest with
    | some (last, step) => do pure (last, (← Number.signedWhole? step).natAbs)
    | none => pure (rest, 1)
  let step : Int := if step = 0 then 1 else step
  let members := fun (a b : Int) => steps a (if a ≤ b then step else -step) ((b - a).natAbs / step.natAbs + 1)
  match Number.signedWhole? first, Number.signedWhole? last, first, last with
  | some a, some b, _, _ => pure ((members a b).map (padded (widthOf first last)))
  | none, none, [a], [b] =>
    if a.isAlpha && b.isAlpha then
      pure ((members a.toNat b.toNat).map fun n => [Char.ofNat n.toNat])
    else none
  | _, _, _, _ => none

/-- the words that atoms stand for -/
def expandAtoms (fuel : Nat) (atoms : List Atom) : List (List Atom) :=
  match fuel, atoms with
  | 0, _ => [atoms]
  | _, [] => [[]]
  | fuel + 1, .char '{' :: rest =>
    let literal := fun (_ : Unit) => (expandAtoms fuel rest).map (.char '{' :: ·)
    match alternatives 0 [] rest with
    | none => literal ()
    | some ([only], after) =>
      match (chars? only).bind range? with
      | some members =>
        let tails := expandAtoms fuel after
        members.flatMap fun m => tails.map (m.map .char ++ ·)
      | none => literal ()
    | some (choices, after) =>
      let tails := expandAtoms fuel after
      (choices.flatMap (expandAtoms fuel)).flatMap fun c => tails.map (c ++ ·)
  | fuel + 1, a :: rest => (expandAtoms fuel rest).map (a :: ·)

/-- the words that a word with braces stands for -/
def expand (w : Word) : List Word :=
  let atoms := atomsOf w
  let hasBrace := atoms.any fun
    | .char '{' => true
    | _ => false
  if hasBrace then (expandAtoms (atoms.length + 1) atoms).map wordOf else [w]

end Benchwork.Shell.Brace
