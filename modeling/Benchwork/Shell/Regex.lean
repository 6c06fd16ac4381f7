/-
Regular expressions, in the two ways of writing them.

`parse` reads an expression and `search` finds the first match in a text, the longest one that starts there. Matching
tries every way: `run` lists the places where a match can end, with what the groups hold.
-/
import Benchwork.Shell.Pattern

namespace Benchwork.Shell

inductive Regex where
  | empty
  | char (c : Char)
  | any
  | among (negated : Bool) (ranges : List (Char × Char))
  | atStart
  | atEnd
  /-- where a word begins or ends; `inside` for anywhere else -/
  | wordEdge (inside : Bool)
  | seq (a b : Regex)
  | alt (a b : Regex)
  | times (r : Regex) (least : Nat) (most : Option Nat)
  | group (number : Nat) (r : Regex)
  /-- what a group has matched -/
  | again (number : Nat)
  deriving DecidableEq, Repr

namespace Regex

/-! ## Reading -/

/-- the writing with bare operators, or the one where most of them need a backslash -/
inductive Style where
  | basic
  | extended
  deriving DecidableEq, Repr

structure Input where
  rest : List Char
  groups : Nat := 0

abbrev Parser := StateT Input Option

def wordRanges : List (Char × Char) := [('0', '9'), ('A', 'Z'), ('_', '_'), ('a', 'z')]

def spaceRanges : List (Char × Char) := [('\t', '\r'), (' ', ' ')]

/-- an operator in the given style: bare, or after a backslash -/
def operator? (style : Style) (cs : List Char) : Option (Char × List Char) :=
  match style, cs with
  | .extended, c :: rest => if "(){}|+?".toList.contains c then some (c, rest) else none
  | .basic, '\\' :: c :: rest => if "(){}|+?".toList.contains c then some (c, rest) else none
  | _, _ => none

/-- a set in brackets, after the opening one -/
def bracket (cs : List Char) : Option (Regex × List Char) :=
  let marked := fun (s : List Char) => symbols false s
  match cs with
  | '^' :: rest =>
    (Pattern.members rest.length.succ true (marked rest)).map fun (ranges, after) =>
      (.among true ranges, after.map (·.char))
  | _ =>
    (Pattern.members cs.length.succ true (marked cs)).map fun (ranges, after) =>
      (.among false ranges, after.map (·.char))

/-- how often a piece may come: after the opening brace -/
def bounds (style : Style) (cs : List Char) : Option (Nat × Option Nat × List Char) :=
  let digits := cs.takeWhile Char.isDigit
  let number := fun (ds : List Char) => (String.ofList ds).toNat?
  let after := cs.drop digits.length
  match after with
  | ',' :: more =>
    let upper := more.takeWhile Char.isDigit
    match operator? style (more.drop upper.length) with
    | some ('}', rest) => some ((number digits).getD 0, number upper, rest)
    | _ => none
  | _ =>
    match operator? style after with
    | some ('}', rest) => (number digits).map fun n => (n, some n, rest)
    | _ => none

mutual

/-- alternatives -/
def alternatives (style : Style) (fuel : Nat) : Parser Regex :=
  match fuel with
  | 0 => none
  | fuel + 1 => do
    let first ← sequence style fuel true
    match operator? style (← get).rest with
    | some ('|', rest) =>
      modify fun s => { s with rest }
      return .alt first (← alternatives style fuel)
    | _ => return first

/-- pieces one after the other; `first` at the start of an expression or group -/
def sequence (style : Style) (fuel : Nat) (first : Bool) : Parser Regex :=
  match fuel with
  | 0 => none
  | fuel + 1 => do
    let rest := (← get).rest
    match rest with
    | [] => return .empty
    | c :: after =>
      match operator? style rest with
      | some ('|', _) | some (')', _) => return .empty
      | _ =>
        let piece ← atom style fuel first
        let piece ← repeated style fuel piece (c = '^' && first && after.head? ≠ some '^')
        let more ← sequence style fuel false
        return if more = .empty then piece else .seq piece more

/-- repetitions after a piece -/
def repeated (style : Style) (fuel : Nat) (r : Regex) (anchor : Bool) : Parser Regex :=
  match fuel with
  | 0 => none
  | fuel + 1 => do
    let rest := (← get).rest
    match rest with
    | '*' :: after =>
      if style = .basic && anchor then return r
      else do
        modify fun s => { s with rest := after }
        repeated style fuel (.times r 0 none) false
    | _ =>
      match operator? style rest with
      | some ('+', after) => do
        modify fun s => { s with rest := after }
        repeated style fuel (.times r 1 none) false
      | some ('?', after) => do
        modify fun s => { s with rest := after }
        repeated style fuel (.times r 0 (some 1)) false
      | some ('{', after) =>
        match bounds style after with
        | some (least, most, after) => do
          modify fun s => { s with rest := after }
          repeated style fuel (.times r least most) false
        | none => if style = .extended then return r else none
      | _ => return r

/-- a single piece -/
def atom (style : Style) (fuel : Nat) (first : Bool) : Parser Regex :=
  match fuel with
  | 0 => none
  | fuel + 1 => do
    let rest := (← get).rest
    let take := fun (r : Regex) (after : List Char) => (do
      modify fun (s : Input) => { s with rest := after }
      return r : Parser Regex)
    match operator? style rest with
    | some ('(', after) => do
      modify fun s => { rest := after, groups := s.groups + 1 }
      let number := (← get).groups
      let inner ← alternatives style fuel
      match operator? style (← get).rest with
      | some (')', after) => take (.group number inner) after
      | _ => none
    | some (c, after) => if style = .extended && c ≠ ')' then take (.char c) after else take (.char c) after
    | none =>
      match rest with
      | [] => return .empty
      | '.' :: after => take .any after
      | '[' :: after => do
        let (r, after) ← bracket after
        take r after
      | '^' :: after => if style = .extended || first then take .atStart after else take (.char '^') after
      | '$' :: after =>
        let ends := after.isEmpty || match operator? style after with
          | some (c, _) => c = ')' || c = '|'
          | none => false
        if style = .extended || ends then take .atEnd after else take (.char '$') after
      | '\\' :: c :: after =>
        if c.isDigit && c ≠ '0' then take (.again (c.toNat - '0'.toNat)) after
        else
          match c with
          | 'w' => take (.among false wordRanges) after
          | 'W' => take (.among true wordRanges) after
          | 's' => take (.among false spaceRanges) after
          | 'S' => take (.among true spaceRanges) after
          | 'b' | '<' | '>' => take (.wordEdge false) after
          | 'B' => take (.wordEdge true) after
          | 'n' => take (.char '\n') after
          | 't' => take (.char '\t') after
          | _ => take (.char c) after
      | ['\\'] => none
      | c :: after => take (.char c) after

end

/-- reads a whole expression -/
def parse (style : Style) (source : List Char) : Option Regex := do
  let fuel := 6 * source.length + 6
  let (r, input) ← (alternatives style fuel).run ⟨source, 0⟩
  if input.rest.isEmpty then some r else none

/-! ## Matching -/

/-- where the groups begin and end -/
abbrev Captures := List (Nat × Nat × Nat)

def Captures.set (caps : Captures) (number start stop : Nat) : Captures :=
  (number, start, stop) :: caps.filter (·.1 ≠ number)

def isWordChar (c : Char) : Bool := c.isAlphanum || c = '_'

/-- letters count as equal in both cases if `fold` -/
def sameChar (fold : Bool) (a b : Char) : Bool := a = b || (fold && a.toLower = b.toLower)

def inRanges (fold : Bool) (c : Char) (ranges : List (Char × Char)) : Bool :=
  ranges.any (Pattern.inRange c) ||
    (fold && (ranges.any (Pattern.inRange c.toLower) || ranges.any (Pattern.inRange c.toUpper)))

/-- the expression asks again for what a group has matched -/
def recalls : Regex → Bool
  | .again _ => true
  | .seq a b | .alt a b => a.recalls || b.recalls
  | .times r _ _ | .group _ r => r.recalls
  | _ => false

/-- of several ways to the same place only the first -/
def firstWays (ways : List (Nat × Captures)) : List (Nat × Captures) :=
  (ways.foldl (fun kept e => if kept.any (·.1 = e.1) then kept else e :: kept) []).reverse

/-- the places where a match that starts at `i` can end -/
def run (fold : Bool) (text : Array Char) (fuel : Nat) (r : Regex) (i : Nat) (caps : Captures) :
    List (Nat × Captures) :=
  match fuel with
  | 0 => []
  | fuel + 1 =>
    match r with
    | .empty => [(i, caps)]
    | .char c => if (text[i]?).any (sameChar fold c) then [(i + 1, caps)] else []
    | .any => if (text[i]?).any (· ≠ '\n') then [(i + 1, caps)] else []
    | .among negated ranges =>
      if (text[i]?).any fun c => inRanges fold c ranges != negated then [(i + 1, caps)] else []
    | .atStart => if i = 0 then [(i, caps)] else []
    | .atEnd => if i = text.size then [(i, caps)] else []
    | .wordEdge inside =>
      let before := i > 0 && (text[i - 1]?).any isWordChar
      let after := (text[i]?).any isWordChar
      if (before != after) != inside then [(i, caps)] else []
    | .seq a b =>
      let ways := run fold text fuel a i caps
      (if b.recalls then ways else firstWays ways).flatMap fun (j, caps) => run fold text fuel b j caps
    | .alt a b => run fold text fuel a i caps ++ run fold text fuel b i caps
    | .group number r => (run fold text fuel r i caps).map fun (j, caps) => (j, caps.set number i j)
    | .again number =>
      match caps.find? (·.1 = number) with
      | some (_, start, stop) =>
        let part := (text.extract start stop).toList
        if ((text.extract i (i + part.length)).toList.zip part).all (fun (a, b) => sameChar fold a b) &&
            i + part.length ≤ text.size then [(i + part.length, caps)]
        else []
      | none => []
    | .times r least most =>
      let here := if least = 0 then [(i, caps)] else []
      if most = some 0 then here
      else
        let once := (run fold text fuel r i caps).filter fun (j, _) => j > i || least > 0
        let more := once.flatMap fun (j, caps) => run fold text fuel (.times r (least - 1) (most.map (· - 1))) j caps
        firstWays more ++ here

/-- the longest match at a place -/
def matchAt (fold : Bool) (text : Array Char) (r : Regex) (i : Nat) : Option (Nat × Captures) :=
  (run fold text (64 * (text.size + 8)) r i []).foldl (fun best e =>
    match best with
    | some b => if e.1 > b.1 then some e else some b
    | none => some e) none

/-- the first match from a place on: where it begins and ends, and the groups -/
def searchFrom (fold : Bool) (text : Array Char) (r : Regex) (place : Nat) : Option (Nat × Nat × Captures) :=
  (List.range (text.size + 1 - place)).findSome? fun k =>
    (matchAt fold text r (place + k)).map fun (stop, caps) => (place + k, stop, caps)

def search (fold : Bool) (r : Regex) (text : List Char) : Option (Nat × Nat × Captures) :=
  searchFrom fold text.toArray r 0

/-- matches anywhere in a text -/
def isFoundIn (fold : Bool) (r : Regex) (text : List Char) : Bool := (search fold r text).isSome

/-- matches a whole text -/
def fits (fold : Bool) (r : Regex) (text : List Char) : Bool :=
  (run fold text.toArray (64 * (text.length + 8)) r 0 []).any (·.1 = text.length)

end Regex

end Benchwork.Shell
