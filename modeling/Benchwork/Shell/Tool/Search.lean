/-
Searching lines.

A line is found if one of the patterns matches in it, or in no place if that is asked for. Patterns are regular
expressions in one of two ways of writing, or plain texts.
-/
import Benchwork.Shell.Regex
import Benchwork.Shell.Tool.Tree

namespace Benchwork.Shell.Tool

open Benchwork.Text Tooling

/-- how patterns are written and compared -/
structure Manner where
  style : Regex.Style := .basic
  isText : Bool := false
  fold : Bool := false
  wholeWord : Bool := false
  wholeLine : Bool := false

/-- a plain text as an expression -/
def regexOfText (cs : List Char) : Regex := cs.foldr (fun c r => .seq (.char c) r) .empty

/-- the expression of a pattern; each line of it is an alternative -/
def patternRegex (m : Manner) (source : String) : Option Regex := do
  let all ← (source.toList.splitOn '\n').mapM fun line =>
    if m.isText then some (regexOfText line) else Regex.parse m.style line
  match all with
  | [] => none
  | r :: rest => some (rest.foldl .alt r)

/-- a match that is a word of its own -/
def isWholeWord (text : Array Char) (start stop : Nat) : Bool :=
  let isWord := fun (c : Option Char) => c.any Regex.isWordChar
  !(start > 0 && isWord text[start - 1]?) && !isWord text[stop]?

/-- the matches in a line, from the left -/
def matchesIn (m : Manner) (r : Regex) (text : Array Char) (fuel place : Nat) : List (Nat × Nat) :=
  match fuel with
  | 0 => []
  | fuel + 1 =>
    if place > text.size then []
    else
      match Regex.searchFrom m.fold text r place with
      | none => []
      | some (start, stop, _) =>
        let good := (!m.wholeWord || isWholeWord text start stop) &&
          (!m.wholeLine || (start = 0 && stop = text.size))
        if good then (start, stop) :: matchesIn m r text fuel (if stop > start then stop else stop + 1)
        else matchesIn m r text fuel (start + 1)

def isMatched (m : Manner) (rs : List Regex) (line : List Char) : Bool :=
  rs.any fun r =>
    if m.wholeLine then Regex.fits m.fold r line
    else if m.wholeWord then !(matchesIn m r line.toArray (line.length + 2) 0).isEmpty
    else Regex.isFoundIn m.fold r line

/-- the files of a tree with their names -/
def filesBelow (fuel : Nat) (name : String) (x : Node) : List String :=
  match fuel, x with
  | 0, _ => []
  | _, .file _ _ => [name]
  | fuel + 1, .dir es => es.flatMap fun e => filesBelow fuel (inside name (Octets.ofBytes e.1)) e.2
  | _, .link _ => []

def searchSwitches : List Switch :=
  plainSwitches "vinclLqsowxhHrREFGPUaIzTbu" ++
    [⟨"e", ["regexp"], true⟩, ⟨"f", ["file"], true⟩, ⟨"m", ["max-count"], true⟩, ⟨"A", ["after-context"], true⟩,
     ⟨"B", ["before-context"], true⟩, ⟨"C", ["context"], true⟩, ⟨"i", ["ignore-case"], false⟩,
     ⟨"v", ["invert-match"], false⟩, ⟨"n", ["line-number"], false⟩, ⟨"c", ["count"], false⟩,
     ⟨"l", ["files-with-matches"], false⟩, ⟨"L", ["files-without-match"], false⟩, ⟨"q", ["quiet", "silent"], false⟩,
     ⟨"s", ["no-messages"], false⟩, ⟨"o", ["only-matching"], false⟩, ⟨"w", ["word-regexp"], false⟩,
     ⟨"x", ["line-regexp"], false⟩, ⟨"h", ["no-filename"], false⟩, ⟨"H", ["with-filename"], false⟩,
     ⟨"r", ["recursive"], false⟩, ⟨"E", ["extended-regexp"], false⟩, ⟨"F", ["fixed-strings"], false⟩,
     ⟨"color", ["color", "colour"], false⟩, ⟨"include", ["include"], true⟩, ⟨"exclude", ["exclude"], true⟩]

/-- the lines around those that were found: which lines are shown, and whether each was found itself -/
def withContext (before after : Nat) (hits : List Bool) : List (Option Bool) :=
  let hit := hits.toArray
  (List.range hits.length).map fun i =>
    if (hit[i]?).getD false then some true
    else
      let ahead := (List.range before).any fun k => (hit[i + k + 1]?).getD false
      let behind := (List.range after).any fun k => i ≥ k + 1 && (hit[i - (k + 1)]?).getD false
      if ahead || behind then some false else none

/-- why a pattern cannot be read -/
def patternFault (source : String) : String :=
  if source.contains '[' then "Unmatched [, [^, [:, [., or [="
  else if source.contains '(' then "Unmatched ( or \\("
  else "Invalid regular expression"

def grepWith (style : String) (args : List String) : Tooling Nat := do
  let usage : Tooling Nat := do
    let name ← read
    modify (·.complain ("Usage: " ++ name ++ " [OPTION]... PATTERNS [FILE]...\nTry '" ++ name ++
      " --help' for more information.\n"))
    return 2
  let c ← match Choices.parse searchSwitches (args.filter fun a => !a.startsWith "--color") with
    | .ok c => pure c
    | .error message => do
      complain message
      let _ ← usage
      quit 2
  let given := c.given.filterMap fun o => if o.1 = "e" then some o.2 else none
  let (fromFile, readable) ← match c.value? "f" with
    | some name => do
      match ← input name with
      | .ok bytes => pure ((linesOf (Octets.ofBytes bytes).toList).map String.ofList, true)
      | .error e => do
        plainFault name e
        pure ([], false)
    | none => pure ([], true)
  if !readable then quit 2
  let explicit := c.has "e" || c.has "f"
  let (sources, names) := if explicit then (given ++ fromFile, c.operands) else (c.operands.take 1, c.operands.drop 1)
  if sources.isEmpty && !c.has "f" then
    let code ← usage
    quit code
  let m : Manner :=
    { style := if style = "E" || c.has "E" || c.has "P" then .extended else .basic
      isText := style = "F" || c.has "F", fold := c.has "i", wholeWord := c.has "w", wholeLine := c.has "x" }
  let mut rs : List Regex := []
  for s in sources do
    match patternRegex m s with
    | some r => rs := rs ++ [r]
    | none => do
      complain (patternFault s)
      quit 2
  let deep := c.has "r" || c.has "R"
  let mut places : List String := []
  let mut failed := false
  for name in (if names.isEmpty then [if deep then "." else "-"] else names) do
    match ← nodeOf .target name, deep with
    | .ok (.dir es), true =>
      let found := filesBelow 100 name (.dir es)
      places := places ++ (if names.isEmpty then found.map fun n => String.ofList (n.toList.drop 2) else found)
    | _, _ => places := places ++ [name]
  let titled := (places.length > 1 || names.length > 1 || deep || c.has "H") && !c.has "h"
  let number := fun (k : String) => ((c.value? k).bind String.toNat?)
  let before := ((number "B").orElse fun _ => number "C").getD 0
  let after := ((number "A").orElse fun _ => number "C").getD 0
  let mut found := false
  for name in places do
    match ← input name with
    | .error e => do
      failed := true
      if !c.has "s" then plainFault name e
    | .ok bytes => do
      let lines := linesOf (Octets.ofBytes bytes).toList
      let hits := lines.map fun l => isMatched m rs l != c.has "v"
      let hits := match number "m" with
        | some most =>
          (hits.foldl (fun (acc : List Bool × Nat) h =>
            if h && acc.2 < most then (true :: acc.1, acc.2 + 1) else (false :: acc.1, acc.2)) ([], 0)).1.reverse
        | none => hits
      let count := (hits.filter id).length
      let shown := if name = "-" then "(standard input)" else name
      let title := if titled then shown ++ ":" else ""
      if c.has "L" then
        if count = 0 then do
          found := true
          if !c.has "q" then say (shown ++ "\n")
      else
        if count > 0 then found := true
        if c.has "q" then pure ()
        else if c.has "l" then
          if count > 0 then say (shown ++ "\n")
        else if c.has "c" then say (title ++ toString count ++ "\n")
        else if c.has "o" then
          if !c.has "v" then
            for ((line, hit), i) in (lines.zip hits).zipIdx do
              if hit then
                let label := title ++ (if c.has "n" then toString (i + 1) ++ ":" else "")
                let text := line.toArray
                let parts := (rs.flatMap fun r => matchesIn m r text (line.length + 2) 0).mergeSort fun a b => a.1 ≤ b.1
                for (start, stop) in parts do
                  if stop > start then say (label ++ String.ofList (text.extract start stop).toList ++ "\n")
        else
          let marks := withContext before after hits
          let mut last : Option Nat := none
          for ((line, mark), i) in (lines.zip marks).zipIdx do
            match mark with
            | none => pure ()
            | some hit => do
              if (before > 0 || after > 0) && (last.map fun n => decide (n + 1 < i)).getD false then say "--\n"
              last := some i
              let sep := if hit then ":" else "-"
              let label := (if titled then shown ++ sep else "") ++ (if c.has "n" then toString (i + 1) ++ sep else "")
              say (label ++ String.ofList line ++ "\n")
  if found && c.has "q" then return 0
  else if failed then return 2
  else return if found then 0 else 1

def grep (args : List String) : Tooling Nat := grepWith "G" args

def egrep (args : List String) : Tooling Nat := grepWith "E" args

def fgrep (args : List String) : Tooling Nat := grepWith "F" args

end Benchwork.Shell.Tool
