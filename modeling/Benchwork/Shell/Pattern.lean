/-
Patterns of a shell.

A pattern is a list of marks, each for one character, for some characters, or for any text. A character in quotes stands
for itself. With groups, a mark can also be a choice of patterns in round brackets. Patterns are matched against whole
texts; `cutStart` and `cutEnd` take away a part that matches.
-/
import Benchwork.Text.Octets

namespace Benchwork.Shell

/-- a character of a word, and whether quotes have taken its meaning away -/
structure Symbol where
  char : Char
  quoted : Bool
  deriving DecidableEq, Repr

def symbols (quoted : Bool) (cs : List Char) : List Symbol := cs.map (⟨·, quoted⟩)

def plainText (f : List Symbol) : String := String.ofList (f.map (·.char))

/-- how often one of the choices of a group stands there; `never` is for any text that fits none -/
inductive Times where
  | once
  | atMostOnce
  | anyTimes
  | someTimes
  | never
  deriving DecidableEq, Repr

/-- one place of a pattern -/
inductive PatternMark where
  | exactly (c : Char)
  | one
  | any
  /-- one character in the ranges, or in none of them if `negated` -/
  | among (negated : Bool) (ranges : List (Char × Char))
  | group (times : Times) (choices : List (List PatternMark))
  deriving Repr

namespace Pattern

/-- how patterns are read -/
structure Manner where
  /-- a caret negates a set, as an exclamation mark does -/
  caret : Bool := true
  /-- a sign before a round bracket makes a group -/
  groups : Bool := false
  /-- capital and small letters are the same -/
  fold : Bool := false

/-- the characters of a named class -/
def namedClass (name : String) : List (Char × Char) :=
  match name with
  | "alpha" => [('A', 'Z'), ('a', 'z')]
  | "digit" => [('0', '9')]
  | "alnum" => [('0', '9'), ('A', 'Z'), ('a', 'z')]
  | "upper" => [('A', 'Z')]
  | "lower" => [('a', 'z')]
  | "space" => [('\t', '\r'), (' ', ' ')]
  | "blank" => [('\t', '\t'), (' ', ' ')]
  | "punct" => [('!', '/'), (':', '@'), ('[', Char.ofNat 96), ('{', '~')]
  | "print" => [(' ', '~')]
  | "graph" => [('!', '~')]
  | "cntrl" => [(Char.ofNat 0, Char.ofNat 31), (Char.ofNat 127, Char.ofNat 127)]
  | "xdigit" => [('0', '9'), ('A', 'F'), ('a', 'f')]
  | _ => []

def inRange (c : Char) (r : Char × Char) : Bool := r.1 ≤ c && c ≤ r.2

/-- what stands between brackets: its ranges and what follows; `first` as long as a closing bracket is a member -/
def members (fuel : Nat) (first : Bool) (s : List Symbol) : Option (List (Char × Char) × List Symbol) :=
  match fuel, s with
  | 0, _ | _, [] => none
  | fuel + 1, c :: rest =>
    if c.char = ']' && !c.quoted && !first then some ([], rest)
    else if c.char = '[' && rest.head?.map (·.char) = some ':' then
      let name := (rest.tail.takeWhile (·.char ≠ ':')).map (·.char)
      match rest.tail.dropWhile (·.char ≠ ':') with
      | _ :: close :: after =>
        if close.char = ']' then
          (members fuel false after).map fun (more, left) => (namedClass (String.ofList name) ++ more, left)
        else (members fuel false rest).map fun (more, left) => ((c.char, c.char) :: more, left)
      | _ => (members fuel false rest).map fun (more, left) => ((c.char, c.char) :: more, left)
    else
      match rest with
      | dash :: last :: after =>
        if dash.char = '-' && !dash.quoted && (last.char ≠ ']' || last.quoted) then
          (members fuel false after).map fun (more, left) => ((c.char, last.char) :: more, left)
        else (members fuel false rest).map fun (more, left) => ((c.char, c.char) :: more, left)
      | _ => (members fuel false rest).map fun (more, left) => ((c.char, c.char) :: more, left)

/-- a set in brackets, after the opening one, and what follows it -/
def bracket? (manner : Manner) (s : List Symbol) : Option (PatternMark × List Symbol) :=
  match s with
  | c :: rest =>
    if (c.char = '!' || (manner.caret && c.char = '^')) && !c.quoted then
      (members rest.length.succ true rest).map fun (ranges, after) => (.among true ranges, after)
    else (members s.length.succ true s).map fun (ranges, after) => (.among false ranges, after)
  | [] => none

/-- the choices of a group, after its opening bracket, and what follows it -/
def choices (depth : Nat) (current : List Symbol) : List Symbol → Option (List (List Symbol) × List Symbol)
  | [] => none
  | c :: rest =>
    if c.quoted then choices depth (c :: current) rest
    else if c.char = '(' then choices (depth + 1) (c :: current) rest
    else if c.char = ')' then
      match depth with
      | 0 => some ([current.reverse], rest)
      | depth + 1 => choices depth (c :: current) rest
    else if c.char = '|' && depth = 0 then
      (choices 0 [] rest).map fun (more, after) => (current.reverse :: more, after)
    else choices depth (c :: current) rest

/-- how often the choices of a group with this sign stand there -/
def times? : Char → Option Times
  | '@' => some .once
  | '?' => some .atMostOnce
  | '*' => some .anyTimes
  | '+' => some .someTimes
  | '!' => some .never
  | _ => none

/-- the mark for one character -/
def literal (manner : Manner) (c : Char) : PatternMark :=
  if manner.fold && c.isAlpha then .among false [(c.toLower, c.toLower), (c.toUpper, c.toUpper)] else .exactly c

/-- a set in which capital and small letters are the same -/
def folded (manner : Manner) : PatternMark → PatternMark
  | .among negated ranges =>
    if manner.fold then
      .among negated (ranges.flatMap fun (a, b) => [(a, b), (a.toLower, b.toLower), (a.toUpper, b.toUpper)])
    else .among negated ranges
  | m => m

/-- the marks of a pattern -/
def marksOf (manner : Manner) (fuel : Nat) (s : List Symbol) : List PatternMark :=
  match fuel, s with
  | 0, _ | _, [] => []
  | fuel + 1, c :: rest =>
    let isGroup := manner.groups && !c.quoted && rest.head?.any fun d => d.char = '(' && !d.quoted
    match (if isGroup then times? c.char else none), choices 0 [] rest.tail with
    | some times, some (inner, after) =>
      .group times (inner.map (marksOf manner fuel)) :: marksOf manner fuel after
    | _, _ =>
      if c.quoted then literal manner c.char :: marksOf manner fuel rest
      else if c.char = '*' then .any :: marksOf manner fuel rest
      else if c.char = '?' then .one :: marksOf manner fuel rest
      else if c.char = '[' then
        match bracket? manner rest with
        | some (mark, after) => folded manner mark :: marksOf manner fuel after
        | none => .exactly '[' :: marksOf manner fuel rest
      else if c.char = '\\' then
        match rest with
        | d :: after => literal manner d.char :: marksOf manner fuel after
        | [] => [.exactly '\\']
      else literal manner c.char :: marksOf manner fuel rest

def ofSymbols (manner : Manner) (s : List Symbol) : List PatternMark := marksOf manner s.length s

/-- some mark is not for one character only -/
def isOpen (marks : List PatternMark) : Bool :=
  marks.any fun
    | .exactly _ => false
    | _ => true

/-- a mark takes the character -/
def takes (c : Char) : PatternMark → Bool
  | .exactly m => m = c
  | .one => true
  | .any | .group _ _ => false
  | .among negated ranges => ranges.any (inRange c) != negated

/-- the ways to cut a text in two -/
def cuts (cs : List Char) : List (List Char × List Char) :=
  (List.range (cs.length + 1)).map fun n => (cs.take n, cs.drop n)

/-- a pattern matches the whole text -/
def fits (fuel : Nat) (marks : List PatternMark) (cs : List Char) : Bool :=
  match fuel with
  | 0 => false
  | fuel + 1 =>
    match marks, cs with
    | [], cs => cs.isEmpty
    | .any :: ms, [] => fits fuel ms []
    | .any :: ms, c :: cs => fits fuel ms (c :: cs) || fits fuel (.any :: ms) cs
    | .group times inner :: ms, cs =>
      let one := fun (a : List Char) => inner.any (fits fuel · a)
      let again := .group .anyTimes inner :: ms
      match times with
      | .once => (cuts cs).any fun (a, b) => one a && fits fuel ms b
      | .atMostOnce => fits fuel ms cs || (cuts cs).any fun (a, b) => one a && fits fuel ms b
      | .anyTimes => fits fuel ms cs || (cuts cs).any fun (a, b) => !a.isEmpty && one a && fits fuel again b
      | .someTimes => (cuts cs).any fun (a, b) => one a && fits fuel again b
      | .never => (cuts cs).any fun (a, b) => !one a && fits fuel ms b
    | m :: ms, c :: cs => takes c m && fits fuel ms cs
    | _ :: _, [] => false

mutual

/-- how many marks there are, those in groups too -/
def weight : List PatternMark → Nat
  | [] => 0
  | m :: ms => markWeight m + weight ms

def markWeight : PatternMark → Nat
  | .group _ inner => choicesWeight inner + 1
  | _ => 1

def choicesWeight : List (List PatternMark) → Nat
  | [] => 0
  | c :: cs => weight c + choicesWeight cs

end

/-- a pattern matches the whole text; every step takes a mark or a character -/
def matchesAll (marks : List PatternMark) (cs : List Char) : Bool := fits (2 * (weight marks + cs.length) + 2) marks cs

/-- the text without a matching start, the shortest or the longest one -/
def cutStart (longest : Bool) (marks : List PatternMark) (cs : List Char) : List Char :=
  let sizes := List.range (cs.length + 1)
  match (if longest then sizes.reverse else sizes).find? fun n => matchesAll marks (cs.take n) with
  | some n => cs.drop n
  | none => cs

/-- the text without a matching end, the shortest or the longest one -/
def cutEnd (longest : Bool) (marks : List PatternMark) (cs : List Char) : List Char :=
  let sizes := List.range (cs.length + 1)
  match (if longest then sizes else sizes.reverse).find? fun n => matchesAll marks (cs.drop n) with
  | some n => cs.take n
  | none => cs

/-- the length of the longest match at the start of a text -/
def longestStart? (marks : List PatternMark) (cs : List Char) : Option Nat :=
  (List.range (cs.length + 1)).reverse.find? fun n => matchesAll marks (cs.take n)

/-- where a replaced match must stand -/
inductive Place where
  | first
  | everywhere
  | atStart
  | atEnd
  deriving DecidableEq, Repr

/-- replaces matches from the left on -/
def replaceFrom (fuel : Nat) (every : Bool) (marks : List PatternMark) (new cs : List Char) : List Char :=
  match fuel, cs with
  | 0, _ => cs
  | _, [] => []
  | fuel + 1, c :: rest =>
    match longestStart? marks (c :: rest) with
    | some (n + 1) =>
      let after := (c :: rest).drop (n + 1)
      new ++ (if every then replaceFrom fuel every marks new after else after)
    | _ => c :: replaceFrom fuel every marks new rest

def replace (place : Place) (marks : List PatternMark) (new cs : List Char) : List Char :=
  match place with
  | .first => replaceFrom (cs.length + 1) false marks new cs
  | .everywhere => replaceFrom (cs.length + 1) true marks new cs
  | .atStart =>
    match longestStart? marks cs with
    | some n => new ++ cs.drop n
    | none => cs
  | .atEnd =>
    match (List.range (cs.length + 1)).find? fun n => matchesAll marks (cs.drop n) with
    | some n => cs.take n ++ new
    | none => cs

end Pattern

end Benchwork.Shell
