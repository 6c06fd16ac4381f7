/-
Conditions on files, texts and numbers.

A condition is a list of words. Words for one or two operands are joined by `!`, `-a`, `-o` and brackets. Both kinds of
shell read them in their own way: the plain one looks at the next words to tell an operator from an operand, the extended
one goes by the number of words first.
-/
import Benchwork.Number.Whole
import Benchwork.Shell.Process

namespace Benchwork.Shell.Condition

open Benchwork.Text

/-! ## Operators -/

def unaryOperators : List String :=
  ["-r", "-w", "-x", "-e", "-f", "-d", "-c", "-b", "-p", "-u", "-g", "-k", "-s", "-t", "-z", "-n", "-h", "-L", "-O",
   "-G", "-S"]

def binaryOperators : List String :=
  ["=", "!=", "<", ">", "-eq", "-ne", "-ge", "-gt", "-le", "-lt", "-nt", "-ot", "-ef"]

/-- names of devices that take and give bytes -/
def isDevice (x : String) : Bool :=
  ["/dev/null", "/dev/zero", "/dev/tty", "/dev/random", "/dev/urandom", "/dev/full"].contains x

/-- a condition on one operand -/
def unary (p : Process) (op x : String) : Bool :=
  let node := (p.files.node .target (Process.pathOf x)).toOption
  match op with
  | "-n" => x ≠ ""
  | "-z" => x = ""
  | "-e" | "-a" | "-r" | "-w" | "-O" | "-G" => node.isSome
  | "-f" =>
    match node with
    | some (.file _ _) => !isDevice x
    | _ => false
  | "-d" => node.any Node.isDir
  | "-L" | "-h" =>
    match p.files.node .itself (Process.pathOf x) with
    | .ok (.link _) => true
    | _ => false
  | "-x" =>
    match node with
    | some (.file _ executable) => executable
    | some (.dir _) => true
    | _ => false
  | "-s" =>
    match node with
    | some (.file content _) => !content.isEmpty
    | some (.dir _) => true
    | _ => false
  | "-c" => node.isSome && isDevice x
  | _ => false

/-- both names lead to the same place -/
def isSame (p : Process) (a b : String) : Bool :=
  match p.files.lookup .target (Process.pathOf a), p.files.lookup .target (Process.pathOf b) with
  | .ok (.found x _), .ok (.found y _) => x = y
  | _, _ => false

/-- a condition on two texts or two files; `both` says that only files that are there can be newer or older -/
def binaryText (p : Process) (both : Bool) (a op b : String) : Option Bool :=
  let there := fun x => p.files.pathExists (Process.pathOf x)
  match op with
  | "=" | "==" => some (a = b)
  | "!=" => some (a ≠ b)
  | "<" => some (decide (a < b))
  | ">" => some (decide (b < a))
  | "-nt" => some (!both && there a && !there b)
  | "-ot" => some (!both && !there a && there b)
  | "-ef" => some (isSame p a b)
  | _ => none

/-- a comparison of two numbers -/
def compareNumbers? (op : String) : Option (Int → Int → Bool) :=
  match op with
  | "-eq" => some (· == ·)
  | "-ne" => some (· != ·)
  | "-lt" => some (· < ·)
  | "-le" => some (· ≤ ·)
  | "-gt" => some (· > ·)
  | "-ge" => some (· ≥ ·)
  | _ => none

/-- a whole number between blanks, within 64 bits -/
def number? (s : String) : Option Int :=
  let isBlank := fun (c : Char) => c = ' ' || ('\t' ≤ c && c ≤ '\r')
  match Number.signedWhole? (dropEndWhile isBlank (s.toList.dropWhile isBlank)) with
  | some n => if -9223372036854775808 ≤ n && n ≤ 9223372036854775807 then some n else none
  | none => none

/-- what a condition says, or a complaint -/
abbrev Verdict := Except String Bool

/-- what `number?` cannot read is complained about -/
def number (complaint : String → String) (s : String) : Except String Int :=
  match number? s with
  | some n => .ok n
  | none => .error (complaint s)

/-- a condition on two operands -/
def binary (complaint : String → String) (both : Bool) (p : Process) (a op b : String) : Verdict :=
  match binaryText p both a op b, compareNumbers? op with
  | some r, _ => .ok r
  | none, some holds => do return holds (← number complaint a) (← number complaint b)
  | none, none => .ok false

/-! ## The plain shell -/

inductive Lexeme where
  | finish
  | operand
  | unary (op : String)
  | binary (op : String)
  | not
  | both
  | either
  | opening
  | closing
  deriving DecidableEq, Repr

/-- what a word can be as an operator -/
def operatorOf (s : String) : Lexeme :=
  if unaryOperators.contains s then .unary s
  else if binaryOperators.contains s then .binary s
  else
    match s with
    | "!" => .not
    | "-a" => .both
    | "-o" => .either
    | "(" => .opening
    | ")" => .closing
    | _ => .operand

/-- what the first word is, given the words that follow it -/
def lex : List String → Lexeme
  | [] => .finish
  | s :: rest =>
    match operatorOf s, rest with
    | .unary _, [] => .operand
    | .unary op, [_] => .unary op
    | .unary op, next :: _ :: _ =>
      match operatorOf next with
      | .binary _ => .operand
      | _ => .unary op
    | .opening, [] => .operand
    | op, _ => op

/-- reads words; the first one is being looked at -/
abbrev Look := StateT (List String) (Except String)

/-- moves on -/
def advance (n : Nat) : Look Unit := modify (·.drop n)

def illegalNumber (s : String) : String := "Illegal number: " ++ s

mutual

/-- conditions one of which must hold -/
def anyOf (p : Process) (fuel : Nat) (first : Lexeme) : Look Bool := do
  match fuel with
  | 0 => throw "too many words"
  | fuel + 1 =>
    let a ← allOf p fuel first
    if lex ((← get).drop 1) = .either then do
      advance 2
      let b ← anyOf p fuel (lex (← get))
      return a || b
    else return a

/-- conditions all of which must hold -/
def allOf (p : Process) (fuel : Nat) (first : Lexeme) : Look Bool := do
  match fuel with
  | 0 => throw "too many words"
  | fuel + 1 =>
    let a ← negated p fuel first
    if lex ((← get).drop 1) = .both then do
      advance 2
      let b ← allOf p fuel (lex (← get))
      return a && b
    else return a

/-- a condition with or without a negation -/
def negated (p : Process) (fuel : Nat) (first : Lexeme) : Look Bool := do
  match fuel with
  | 0 => throw "too many words"
  | fuel + 1 =>
    if first ≠ .not then primary p fuel first
    else do
      let next := lex ((← get).drop 1)
      if next ≠ .finish then advance 1
      return !(← negated p fuel next)

/-- one condition -/
def primary (p : Process) (fuel : Nat) (first : Lexeme) : Look Bool := do
  match fuel with
  | 0 => throw "too many words"
  | fuel + 1 =>
    match first with
    | .finish => return false
    | .opening => do
      advance 1
      let next := lex (← get)
      if next = .closing then return false
      let r ← anyOf p fuel next
      advance 1
      if lex (← get) ≠ .closing then throw "closing paren expected"
      return r
    | .unary op => do
      advance 1
      match (← get).head? with
      | none => throw (op ++ ": argument expected")
      | some x =>
        if op = "-t" then
          match number illegalNumber x with
          | .ok _ => return false
          | .error e => throw e
        else return unary p op x
    | _ =>
      match lex ((← get).drop 1) with
      | .binary op => do
        let a := (← get).headD ""
        match (← get).drop 2 with
        | b :: _ => do
          advance 2
          match binary illegalNumber true p a op b with
          | .ok r => return r
          | .error e => throw e
        | [] => throw (op ++ ": argument expected")
      | _ => return (← get).headD "" ≠ ""

end

/-- settles a condition as the plain shell does -/
def plainFrom (p : Process) (fuel : Nat) (args : List String) : Verdict :=
  match fuel with
  | 0 => .ok false
  | fuel + 1 =>
    let settle := fun (first : Lexeme) => do
      let (r, rest) ← (anyOf p (4 * args.length + 8) first).run args
      match rest with
      | x :: _ :: _ => .error (x ++ ": unexpected operator")
      | _ => .ok r
    let other := fun (_ : Unit) =>
      if args.head? = some "(" && args.getLast? = some ")" then plainFrom p fuel args.tail.dropLast
      else if args.head? = some "!" then (plainFrom p fuel args.tail).map not
      else settle (lex args)
    match args with
    | [] => .ok false
    | [_, op, _] => if binaryOperators.contains op then settle .operand else other ()
    | [_, _, _, _] => other ()
    | _ => settle (lex args)

def plain (p : Process) (args : List String) : Verdict := plainFrom p (args.length + 1) args

/-! ## The extended shell -/

def isUnary (op : String) : Bool := unaryOperators.contains op || ["-a", "-N", "-o", "-v", "-R"].contains op

def isBinary (op : String) : Bool := op = "==" || binaryOperators.contains op

def integerExpected (s : String) : String := s ++ ": integer expression expected"

/-- what a condition can ask about a shell: which variables have a value, and which switches are on -/
structure Scope where
  isSet : String → Bool := fun _ => false
  isOn : String → Bool := fun _ => false

/-- a condition on one operand -/
def unaryOf (p : Process) (scope : Scope) (op x : String) : Bool :=
  if op = "-v" then scope.isSet x
  else if op = "-o" then scope.isOn x
  else if op = "-R" || op = "-N" then false
  else unary p op x

/-- one to three words -/
def short (p : Process) (scope : Scope) : List String → Option Verdict
  | [] => some (.ok false)
  | [x] => some (.ok (x ≠ ""))
  | [op, x] =>
    if op = "!" then some (.ok (x = ""))
    else if isUnary op then some (.ok (unaryOf p scope op x))
    else some (.error (op ++ ": unary operator expected"))
  | [a, op, b] =>
    if isBinary op then some (binary integerExpected false p a op b)
    else if op = "-a" then some (.ok (a ≠ "" && b ≠ ""))
    else if op = "-o" then some (.ok (a ≠ "" || b ≠ ""))
    else if a = "!" then (short p scope [op, b]).map fun v => v.map not
    else if a = "(" && b = ")" then some (.ok (op ≠ ""))
    else some (.error (op ++ ": binary operator expected"))
  | _ => none

/-- a condition on one operand, or a text -/
def oneOf (p : Process) (scope : Scope) (x : String) (rest : List String) : Look Bool := do
  match rest with
  | y :: _ =>
    if x.length = 2 && x.startsWith "-" then
      if isUnary x then do
        advance 2
        return unaryOf p scope x y
      else throw (x ++ ": unary operator expected")
    else do
      advance 1
      return x ≠ ""
  | [] => do
    advance 1
    return x ≠ ""

mutual

/-- conditions one of which must hold -/
def someOf (p : Process) (scope : Scope) (fuel : Nat) : Look Bool := do
  match fuel with
  | 0 => throw "too many arguments"
  | fuel + 1 =>
    let a ← eachOf p scope fuel
    if (← get).head? = some "-o" then do
      advance 1
      let b ← someOf p scope fuel
      return a || b
    else return a

/-- conditions all of which must hold -/
def eachOf (p : Process) (scope : Scope) (fuel : Nat) : Look Bool := do
  match fuel with
  | 0 => throw "too many arguments"
  | fuel + 1 =>
    let a ← term p scope fuel
    if (← get).head? = some "-a" then do
      advance 1
      let b ← eachOf p scope fuel
      return a && b
    else return a

/-- one condition -/
def term (p : Process) (scope : Scope) (fuel : Nat) : Look Bool := do
  match fuel with
  | 0 => throw "too many arguments"
  | fuel + 1 =>
    match ← get with
    | [] => throw "argument expected"
    | "!" :: _ => do
      advance 1
      return !(← term p scope fuel)
    | "(" :: _ => do
      advance 1
      let r ← someOf p scope fuel
      match ← get with
      | ")" :: _ => do
        advance 1
        return r
      | [] => throw (String.ofList [Char.ofNat 96] ++ ")' expected")
      | x :: _ => throw (String.ofList [Char.ofNat 96] ++ ")' expected, found " ++ x)
    | x :: rest =>
      match rest with
      | op :: b :: _ =>
        if isBinary op then do
          advance 3
          match binary integerExpected false p x op b with
          | .ok r => return r
          | .error e => throw e
        else oneOf p scope x rest
      | _ => oneOf p scope x rest

end

/-- settles a condition as the extended shell does -/
def extended (p : Process) (scope : Scope) (args : List String) : Verdict :=
  let whole := fun (_ : Unit) => do
    let (r, rest) ← (someOf p scope (4 * args.length + 8)).run args
    match rest with
    | [] => .ok r
    | x :: _ =>
      if x.startsWith "-" then .error ("syntax error: " ++ String.ofList [Char.ofNat 96] ++ x ++ "' unexpected")
      else .error "too many arguments"
  match short p scope args with
  | some v => v
  | none =>
    match args with
    | [a, b, c, d] =>
      if a = "!" then ((short p scope [b, c, d]).getD (.ok false)).map not
      else if a = "(" && d = ")" then (short p scope [b, c]).getD (.ok false)
      else whole ()
    | _ => whole ()

end Benchwork.Shell.Condition
