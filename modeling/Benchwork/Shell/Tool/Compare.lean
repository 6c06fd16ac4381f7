/-
Comparing files.

Two files are compared byte by byte, or line by line. For lines the longest common part is kept, and the rest is shown as
lines added, deleted or changed.
-/
import Benchwork.Shell.Tool.Tree

namespace Benchwork.Shell.Tool

open Benchwork.Text Tooling

/-- the place of the first difference -/
def firstDifference (a b : List UInt8) : Option Nat :=
  (List.range (min a.length b.length)).find? fun i => a[i]? ≠ b[i]?

def cmp (args : List String) : Tooling Nat := do
  let c ← choices 2
    [⟨"s", ["quiet", "silent"], false⟩, ⟨"l", ["verbose"], false⟩, ⟨"b", [], false⟩, ⟨"n", ["bytes"], true⟩,
     ⟨"i", [], true⟩] args
  let (first, second) ← match c.operands with
    | [] => misuse 2 "missing operand after 'cmp'"
    | [a] => pure (a, "-")
    | a :: b :: _ => pure (a, b)
  let contentOf := fun (name : String) => do
    match ← input name with
    | .ok bytes => pure bytes
    | .error e => do
      if !c.has "s" then plainFault name e
      quit 2
  let a ← contentOf first
  let b ← contentOf second
  match firstDifference a b with
  | some i => do
    let line := ((a.take i).filter (· = 0x0A)).length + 1
    if !c.has "s" then
      say (first ++ " " ++ second ++ " differ: char " ++ toString (i + 1) ++ ", line " ++ toString line ++ "\n")
    return 1
  | none =>
    if a.length = b.length then return 0
    else do
      let (name, bytes) := if a.length < b.length then (first, a) else (second, b)
      if !c.has "s" then
        if bytes.isEmpty then complain ("EOF on " ++ name ++ " which is empty")
        else
          let lines := (bytes.filter (· = 0x0A)).length
          let place := if bytes.getLast? = some 0x0A then "line " ++ toString lines
            else "in line " ++ toString (lines + 1)
          complain ("EOF on " ++ name ++ " after byte " ++ toString bytes.length ++ ", " ++ place)
      return 1

/-! ## Lines -/

/-- for every place of the first list, the lengths of the longest common parts of what follows there -/
def commonTable (a b : List String) : List (List Nat) :=
  a.foldr (fun x rows =>
    let below := rows.headD (List.replicate (b.length + 1) 0)
    let row := (b.zip (below.zip below.tail)).foldr (fun (y, here, diagonal) row =>
      (if x = y then diagonal + 1 else max here (row.headD 0)) :: row) [0]
    row :: rows) [List.replicate (b.length + 1) 0]

/-- a line that stays, goes or comes -/
inductive LineChange where
  | keep
  | drop
  | add
  deriving DecidableEq, Repr

/-- the changes that make the second list of the first one -/
def changesOf (fuel : Nat) (table : List (List Nat)) (a b : List String) : List LineChange :=
  match fuel, a, b with
  | 0, _, _ => []
  | _, [], b => b.map fun _ => .add
  | _, a, [] => a.map fun _ => .drop
  | fuel + 1, x :: xs, y :: ys =>
    if x = y then .keep :: changesOf fuel (table.tail.map List.tail) xs ys
    else
      let right := ((table.headD []).getD 1 0)
      let down := ((table.getD 1 []).headD 0)
      if down ≥ right then .drop :: changesOf fuel table.tail xs (y :: ys)
      else .add :: changesOf fuel (table.map List.tail) (x :: xs) ys

/-- a run of changes: where it stands in both lists, and how many lines go and come -/
structure Hunk where
  left : Nat
  right : Nat
  dropped : Nat := 0
  added : Nat := 0

/-- gathers changes that follow each other -/
def hunksOf (left right : Nat) (current : Option Hunk) : List LineChange → List Hunk
  | [] => current.toList
  | .keep :: rest => current.toList ++ hunksOf (left + 1) (right + 1) none rest
  | .drop :: rest =>
    let h := current.getD { left, right }
    hunksOf (left + 1) right (some { h with dropped := h.dropped + 1 }) rest
  | .add :: rest =>
    let h := current.getD { left, right }
    hunksOf left (right + 1) (some { h with added := h.added + 1 }) rest

def lineRange (first count : Nat) : String :=
  if count ≤ 1 then toString first else toString first ++ "," ++ toString (first + count - 1)

/-- a run of changes as it is printed -/
def hunkText (a b : List (List Char)) (endedA endedB : Bool) (h : Hunk) : String :=
  let marked := fun (mark : String) (lines : List (List Char)) (ended : Bool) (first count : Nat) =>
    String.join (((lines.drop first).take count).zipIdx.map fun (l, i) =>
      mark ++ " " ++ String.ofList l ++ "\n" ++
        (if !ended && first + i + 1 = lines.length then "\\ No newline at end of file\n" else ""))
  let gone := marked "<" a endedA h.left h.dropped
  let come := marked ">" b endedB h.right h.added
  if h.dropped = 0 then toString h.left ++ "a" ++ lineRange (h.right + 1) h.added ++ "\n" ++ come
  else if h.added = 0 then lineRange (h.left + 1) h.dropped ++ "d" ++ toString h.right ++ "\n" ++ gone
  else lineRange (h.left + 1) h.dropped ++ "c" ++ lineRange (h.right + 1) h.added ++ "\n" ++ gone ++ "---\n" ++ come

def diff (args : List String) : Tooling Nat := do
  let c ← choices 2
    (plainSwitches "qrubBwiNaysE" ++ [⟨"q", ["brief"], false⟩, ⟨"r", ["recursive"], false⟩, ⟨"U", [], true⟩]) args
  match c.operands with
  | [first, second] => do
    let names ← match ← isDirectory first, ← isDirectory second with
      | true, false => pure (inside first (lastName second), second)
      | false, true => pure (first, inside second (lastName first))
      | _, _ => pure (first, second)
    let mut texts : List (List Char) := []
    for name in [names.1, names.2] do
      match ← input name with
      | .ok bytes => texts := texts ++ [(Octets.ofBytes bytes).toList]
      | .error e => plainFault name e
    match texts with
    | [a, b] =>
      if a = b then return 0
      else if c.has "q" then do
        say ("Files " ++ names.1 ++ " and " ++ names.2 ++ " differ\n")
        return 1
      else do
        let ended := fun (cs : List Char) => cs.isEmpty || cs.getLast? = some '\n'
        let whole := fun (cs : List Char) => (linesWithEnds cs).map String.ofList
        let changes := changesOf (a.length + b.length + 2) (commonTable (whole a) (whole b)) (whole a) (whole b)
        for h in hunksOf 0 0 none changes do
          say (hunkText (linesOf a) (linesOf b) (ended a) (ended b) h)
        return 1
    | _ => return 2
  | [a] => misuse 2 ("missing operand after " ++ literal a)
  | [] => misuse 2 "missing operand after 'diff'"
  | _ :: _ :: x :: _ => misuse 2 ("extra operand " ++ literal x)

end Benchwork.Shell.Tool
