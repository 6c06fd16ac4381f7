/-
Searching file trees.

A walk goes through trees and settles a condition on every file. A condition can have deeds in it, which are due where it
gets that far. What comes out is a list of steps, which others take, because a step can mean to start a program.
-/
import Benchwork.Shell.Pattern
import Benchwork.Shell.Tool.Tree

namespace Benchwork.Shell.Tool

open Benchwork.Text Tooling

/-! ## Conditions -/

/-- a condition on a file -/
inductive Sieve where
  | always
  | name (pattern : List PatternMark) (fold : Bool)
  | path (pattern : List PatternMark)
  | kind (letter : Char)
  | empty
  | executable
  | negate (s : Sieve)
  | both (a b : Sieve)
  | either (a b : Sieve)
  | deed (number : Nat)

/-- what is done with a file that was found -/
inductive Deed where
  | print (ending : String)
  | delete
  | run (command : List String)
  /-- one command for all files -/
  | runAll (command : List String)
  | prune
  deriving DecidableEq, Repr

/-- what a walk does, in order -/
inductive Step where
  | say (text : String)
  | delete (name : String)
  | run (command : List String)
  | complain (message : String)
  deriving DecidableEq, Repr

/-- what is left to read, and the deeds read so far -/
structure SieveInput where
  rest : List String
  deeds : List Deed := []
  least : Nat := 0
  most : Nat := 100000

abbrev SieveReader := StateT SieveInput (Except String)

namespace SieveReader

def next : SieveReader (Option String) := do
  match (← get).rest with
  | a :: rest => do
    modify ({ · with rest })
    return some a
  | [] => return none

def peek : SieveReader (Option String) := do return (← get).rest.head?

def argument (option : String) : SieveReader String := do
  match ← next with
  | some a => return a
  | none => throw ("missing argument to " ++ String.ofList [Char.ofNat 96] ++ option ++ "'")

def addDeed (d : Deed) : SieveReader Sieve := do
  let n := (← get).deeds.length
  modify fun s => { s with deeds := s.deeds ++ [d] }
  return .deed n

def patternOfText (s : String) : List PatternMark := Pattern.ofSymbols {} (symbols false s.toList)

/-- a command up to a semicolon, or up to a plus after the braces -/
def command (fuel : Nat) (words : List String) : SieveReader Sieve := do
  match fuel with
  | 0 => throw ("missing argument to " ++ String.ofList [Char.ofNat 96] ++ "-exec'")
  | fuel + 1 =>
    match ← next with
    | none => throw ("missing argument to " ++ String.ofList [Char.ofNat 96] ++ "-exec'")
    | some ";" => addDeed (.run words.reverse)
    | some "+" =>
      if words.head? = some "\x7b\x7d" then addDeed (.runAll words.reverse) else command fuel ("+" :: words)
    | some w => command fuel (w :: words)

mutual

def eitherOf (fuel : Nat) : SieveReader Sieve := do
  match fuel with
  | 0 => throw "expression too long"
  | fuel + 1 =>
    let a ← bothOf fuel
    match ← peek with
    | some "-o" | some "-or" => do
      let _ ← next
      return .either a (← eitherOf fuel)
    | _ => return a

def bothOf (fuel : Nat) : SieveReader Sieve := do
  match fuel with
  | 0 => throw "expression too long"
  | fuel + 1 =>
    let a ← one fuel
    match ← peek with
    | none | some "-o" | some "-or" | some ")" => return a
    | some "-a" | some "-and" => do
      let _ ← next
      return .both a (← bothOf fuel)
    | some _ => return .both a (← bothOf fuel)

def one (fuel : Nat) : SieveReader Sieve := do
  match fuel with
  | 0 => throw "expression too long"
  | fuel + 1 =>
    match ← next with
    | none => return .always
    | some "!" | some "-not" => return .negate (← one fuel)
    | some "(" => do
      let s ← eitherOf fuel
      let _ ← next
      return s
    | some "-name" => return .name (patternOfText (← argument "-name")) false
    | some "-iname" => return .name ((patternOfText ((← argument "-iname").toLower))) true
    | some "-path" => return .path (patternOfText (← argument "-path"))
    | some "-wholename" => return .path (patternOfText (← argument "-wholename"))
    | some "-type" => return .kind ((← argument "-type").toList.headD 'f')
    | some "-empty" => return .empty
    | some "-executable" => return .executable
    | some "-true" => return .always
    | some "-false" => return .negate .always
    | some "-maxdepth" => do
      let n ← argument "-maxdepth"
      modify ({ · with most := n.toNat?.getD 0 })
      return .always
    | some "-mindepth" => do
      let n ← argument "-mindepth"
      modify ({ · with least := n.toNat?.getD 0 })
      return .always
    | some "-print" => addDeed (.print "\n")
    | some "-print0" => addDeed (.print "\x00")
    | some "-delete" => addDeed .delete
    | some "-prune" => addDeed .prune
    | some "-exec" => command 1000 []
    | some "-depth" | some "-xdev" | some "-follow" | some "-noleaf" => return .always
    | some w => throw ("unknown predicate " ++ String.ofList [Char.ofNat 96] ++ w ++ "'")

end

end SieveReader

/-! ## Walks -/

/-- a file in a walk -/
structure Visit where
  name : String
  node : Node
  depth : Nat

/-- settles a condition, with the numbers of the deeds that are due -/
def Sieve.settle (s : Sieve) (v : Visit) : Bool × List Nat :=
  match s with
  | .always => (true, [])
  | .name pattern fold =>
    let own := lastName v.name
    (Pattern.matchesAll pattern (if fold then own.toLower else own).toList, [])
  | .path pattern => (Pattern.matchesAll pattern v.name.toList, [])
  | .kind letter =>
    (match v.node, letter with
      | .file _ _, 'f' | .dir _, 'd' | .link _, 'l' => true
      | _, _ => false, [])
  | .empty =>
    (match v.node with
      | .file [] _ | .dir [] => true
      | _ => false, [])
  | .executable =>
    (match v.node with
      | .file _ false => false
      | _ => true, [])
  | .negate s =>
    let (r, due) := s.settle v
    (!r, due)
  | .both a b =>
    let (r, due) := a.settle v
    if r then
      let (r', due') := b.settle v
      (r', due ++ due')
    else (false, due)
  | .either a b =>
    let (r, due) := a.settle v
    if r then (true, due)
    else
      let (r', due') := b.settle v
      (r', due ++ due')
  | .deed n => (true, [n])

/-- the files of a tree, a directory before what is in it, or after it if `below` -/
def visits (below : Bool) (stop : Visit → Bool) (fuel : Nat) (v : Visit) : List Visit :=
  match fuel with
  | 0 => []
  | fuel + 1 =>
    let inner := match v.node with
      | .dir es =>
        if stop v then []
        else es.flatMap fun e => visits below stop fuel ⟨inside v.name (Octets.ofBytes e.1), e.2, v.depth + 1⟩
      | _ => []
    if below then inner ++ [v] else v :: inner

/-- what a walk looks for and does -/
structure Search where
  sieve : Sieve
  deeds : List Deed
  least : Nat
  most : Nat
  /-- what is in a directory comes before it -/
  below : Bool

namespace Search

def deedsAt (s : Search) (v : Visit) : List Deed := (s.sieve.settle v).2.filterMap fun n => s.deeds[n]?

/-- nothing below this file is visited -/
def isEdge (s : Search) (v : Visit) : Bool := decide (v.depth ≥ s.most) || (s.deedsAt v).contains .prune

def found (s : Search) (start : Visit) : List Visit :=
  (visits s.below s.isEdge 200 start).filter fun v => decide (s.least ≤ v.depth)

/-- the steps for one file; a search without deeds prints names -/
def stepsAt (s : Search) (v : Visit) : List Step :=
  let done := (s.deedsAt v).filterMap fun
    | .print ending => some (Step.say (v.name ++ ending))
    | .delete => if v.name = "." then none else some (Step.delete v.name)
    | .run command => some (Step.run (command.map fun w => w.replace "\x7b\x7d" v.name))
    | _ => none
  if s.deeds.all (· = .prune) && (s.sieve.settle v).1 then done ++ [Step.say (v.name ++ "\n")] else done

/-- the commands for all files together that want this one -/
def gatheredAt (s : Search) (v : Visit) : List (List String × String) :=
  (s.deedsAt v).filterMap fun
    | .runAll command => some (command, v.name)
    | _ => none

end Search

/-- the steps of a walk from some places -/
def findSteps (files : FileStore) (args : List String) : Except String (List Step) := do
  let isPlace := fun (a : String) => !a.startsWith "-" && a ≠ "!" && a ≠ "("
  let args := args.dropWhile fun a => a = "-L" || a = "-H" || a = "-P"
  let places := if (args.takeWhile isPlace).isEmpty then ["."] else args.takeWhile isPlace
  let (sieve, input) ← (SieveReader.eitherOf (4 * args.length + 8)).run { rest := args.dropWhile isPlace }
  match input.rest with
  | w :: _ => throw ("paths must precede expression: " ++ String.ofList [Char.ofNat 96] ++ w ++ "'")
  | [] => pure ()
  let search : Search :=
    { sieve, deeds := input.deeds, least := input.least, most := input.most
      below := input.deeds.contains .delete || args.contains "-depth" }
  let starts := places.map fun place => (place, files.node .itself (Process.pathOf place))
  let steps := starts.flatMap fun (place, node) =>
    match node with
    | .error e => [Step.complain (literal place ++ ": " ++ e.description)]
    | .ok x => (search.found ⟨place, x, 0⟩).flatMap search.stepsAt
  let gathered := starts.flatMap fun (place, node) =>
    match node with
    | .error _ => []
    | .ok x => (search.found ⟨place, x, 0⟩).flatMap search.gatheredAt
  let together := match gathered with
    | (command, _) :: _ => [Step.run (command.dropLast ++ gathered.map (·.2))]
    | [] => []
  return steps ++ together

end Benchwork.Shell.Tool
