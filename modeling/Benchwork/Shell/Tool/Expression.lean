/-
Expressions of words.

An expression is a list of words: numbers, texts and operators between them, each a word of its own. Numbers have no
limit. Its value is printed, and an empty or zero value is a failure.
-/
import Benchwork.Number.Whole
import Benchwork.Shell.Regex
import Benchwork.Shell.Tool.Basic

namespace Benchwork.Shell.Tool.Expression

open Benchwork.Text

/-- the words that are left, and the last one read -/
structure Input where
  rest : List String
  last : String := ""

abbrev Reader := StateT Input (Except String)

def peek : Reader (Option String) := do return (← get).rest.head?

def skip : Reader Unit := modify fun s => { rest := s.rest.drop 1, last := s.rest.headD s.last }

def isNull (v : String) : Bool := v = "" || (Number.signedWhole? v.toList = some 0)

def number (v : String) : Reader Int := do
  match if v.startsWith "+" then none else Number.signedWhole? v.toList with
  | some n => return n
  | none => throw "non-integer argument"

/-- compares as numbers if both are, else as texts -/
def compareValues (a b : String) : Ordering :=
  match Number.signedWhole? a.toList, Number.signedWhole? b.toList with
  | some x, some y => compare x y
  | _, _ => compare a b

def truth (b : Bool) : String := if b then "1" else "0"

/-- the length of the match at the start, or what the first group matched -/
def matchStart (text pattern : String) : Reader String := do
  match Regex.parse .basic pattern.toList with
  | none => throw "Invalid regular expression"
  | some r =>
    let cs := text.toList.toArray
    let hasGroup := (pattern.splitOn "\\(").length > 1
    match Regex.matchAt false cs r 0 with
    | some (stop, caps) =>
      if hasGroup then
        match caps.find? (·.1 = 1) with
        | some (_, i, j) => return String.ofList (cs.extract i j).toList
        | none => return ""
      else return toString stop
    | none => return if hasGroup then "" else "0"

/-- the words of one level of operators -/
def operatorsAt : Nat → List String
  | 0 => ["|"]
  | 1 => ["&"]
  | 2 => ["<", "<=", "=", "==", "!=", ">=", ">"]
  | 3 => ["+", "-"]
  | 4 => ["*", "/", "%"]
  | _ => [":"]

def apply (op a b : String) : Reader String := do
  match op with
  | "|" => return if isNull a then (if isNull b then "0" else b) else a
  | "&" => return if isNull a || isNull b then "0" else a
  | "<" => return truth (compareValues a b = .lt)
  | "<=" => return truth (compareValues a b ≠ .gt)
  | "=" | "==" => return truth (compareValues a b = .eq)
  | "!=" => return truth (compareValues a b ≠ .eq)
  | ">=" => return truth (compareValues a b ≠ .lt)
  | ">" => return truth (compareValues a b = .gt)
  | ":" => matchStart a b
  | _ => do
    let x ← number a
    let y ← number b
    match op with
    | "+" => return toString (x + y)
    | "-" => return toString (x - y)
    | "*" => return toString (x * y)
    | _ =>
      if y = 0 then throw "division by zero"
      else return toString (if op = "/" then x.tdiv y else x.tmod y)

mutual

/-- operands and operators of a level, from the left -/
def level (fuel n : Nat) : Reader String := do
  match fuel with
  | 0 => throw "syntax error"
  | fuel + 1 =>
    if n > 5 then primary fuel
    else do
      let a ← level fuel (n + 1)
      continued fuel n a

/-- goes on with the operators of a level -/
def continued (fuel n : Nat) (a : String) : Reader String := do
  match fuel with
  | 0 => throw "syntax error"
  | fuel + 1 =>
    match ← peek with
    | some op =>
      if (operatorsAt n).contains op then do
        skip
        let b ← level fuel (n + 1)
        continued fuel n (← apply op a b)
      else return a
    | none => return a

/-- a word, a function of words, or an expression in brackets -/
def primary (fuel : Nat) : Reader String := do
  match fuel with
  | 0 => throw "syntax error"
  | fuel + 1 =>
    match ← peek with
    | none => do
      let s ← get
      throw ("syntax error: missing argument after " ++ Tooling.literal s.last)
    | some "(" => do
      skip
      let v ← level fuel 0
      match ← peek with
      | some ")" => do
        skip
        return v
      | none => do
        let s ← get
        throw ("syntax error: expecting ')' after " ++ Tooling.literal s.last)
      | some w => throw ("syntax error: expecting ')' instead of " ++ Tooling.literal w)
    | some ")" => throw "syntax error: unexpected ')'"
    | some "+" => do
      skip
      match ← peek with
      | some w => do
        skip
        return w
      | none => throw "syntax error: missing argument after '+'"
    | some "length" => do
      skip
      return toString (← level fuel 6).length
    | some "match" => do
      skip
      let a ← level fuel 6
      let b ← level fuel 6
      matchStart a b
    | some "index" => do
      skip
      let a ← level fuel 6
      let b ← level fuel 6
      return toString (((a.toList.findIdx? b.toList.contains).map (· + 1)).getD 0)
    | some "substr" => do
      skip
      let a ← level fuel 6
      let i ← level fuel 6
      let n ← level fuel 6
      match Number.signedWhole? i.toList, Number.signedWhole? n.toList with
      | some i, some n =>
        if i ≤ 0 || n ≤ 0 then return ""
        else return String.ofList ((a.toList.drop (i.toNat - 1)).take n.toNat)
      | _, _ => return ""
    | some w => do
      skip
      return w

end

/-- the value of an expression -/
def evaluate (words : List String) : Except String String := do
  let (v, s) ← (level (20 * words.length + 20) 0).run { rest := words }
  match s.rest with
  | [] => return v
  | w :: _ => throw ("syntax error: unexpected argument " ++ Tooling.literal w)

end Benchwork.Shell.Tool.Expression

namespace Benchwork.Shell.Tool

open Tooling

def expr (args : List String) : Tooling Nat := do
  let args := if args.head? = some "--" then args.tail else args
  if args.isEmpty then misuse 2 "missing operand"
  match Expression.evaluate args with
  | .ok v => do
    say (v ++ "\n")
    return if Expression.isNull v then 1 else 0
  | .error message => do
    complain message
    return 2

end Benchwork.Shell.Tool
