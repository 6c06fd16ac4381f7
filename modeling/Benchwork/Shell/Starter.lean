/-
Tools that start other programs: how they are asked.

`env` changes the environment, `timeout` sets a limit of time, and `xargs` takes arguments from its input. Here their own
arguments are read; the program itself is started by the interpreter.
-/
import Benchwork.Shell.Signal
import Benchwork.Shell.Tool.Machine

namespace Benchwork.Shell.Starter

open Benchwork.Text

/-! ## Environments -/

structure EnvOrder where
  environment : Environment
  directory : Option String := none
  command : List String := []

/-- the words of a text: quotes keep blanks, and a backslash keeps a character -/
def splitWords (fuel : Nat) (quote : Option Char) (word : Option (List Char)) (cs : List Char) : List String :=
  let done := fun (w : Option (List Char)) => (w.map fun cs => String.ofList cs.reverse).toList
  match fuel, cs with
  | 0, _ | _, [] => done word
  | fuel + 1, c :: rest =>
    let add := fun (c : Char) (left : List Char) => splitWords fuel quote (some (c :: word.getD [])) left
    match quote with
    | some q =>
      if c = q then splitWords fuel none (some (word.getD [])) rest
      else if c = '\\' && q = '"' then
        match rest with
        | d :: after => add d after
        | [] => done word
      else add c rest
    | none =>
      if c = '\'' || c = '"' then splitWords fuel (some c) (some (word.getD [])) rest
      else if c = ' ' || ('\t' ≤ c && c ≤ '\r') then done word ++ splitWords fuel none none rest
      else if c = '\\' then
        match rest with
        | '_' :: after => done word ++ splitWords fuel none none after
        | 'n' :: after => add '\n' after
        | 't' :: after => add '\t' after
        | d :: after => add d after
        | [] => done word
      else add c rest

/-- reads the arguments of `env` -/
def envOrder (fuel : Nat) (o : EnvOrder) (args : List String) : Except String EnvOrder :=
  match fuel, args with
  | 0, _ | _, [] => .ok o
  | fuel + 1, a :: rest =>
    let settings := fun (args : List String) =>
      let isSetting := fun (a : String) => a.contains '='
      let pairs := (args.takeWhile isSetting).map fun a =>
        (String.ofList (a.toList.takeWhile (· ≠ '=')), String.ofList ((a.toList.dropWhile (· ≠ '=')).drop 1))
      { o with environment := o.environment.setAll pairs, command := args.dropWhile isSetting }
    let long := fun (name : String) =>
      if a.startsWith ("--" ++ name ++ "=") then some (String.ofList (a.toList.drop (name.length + 3)), rest)
      else if a = "--" ++ name then some (rest.headD "", rest.drop 1)
      else none
    if a = "-" || a = "--ignore-environment" then envOrder fuel { o with environment := [] } rest
    else if a = "--" then .ok (settings rest)
    else if a = "--null" || a = "--debug" then envOrder fuel o rest
    else
      match long "unset", long "chdir", long "split-string" with
      | some (name, rest), _, _ => envOrder fuel { o with environment := o.environment.unset name } rest
      | _, some (dir, rest), _ => envOrder fuel { o with directory := some dir } rest
      | _, _, some (text, rest) => envOrder fuel o (splitWords (text.length + 1) none none text.toList ++ rest)
      | none, none, none =>
        match a.toList with
        | '-' :: '-' :: _ => .error ("unrecognized option '" ++ a ++ "'")
        | '-' :: c :: cs =>
          let again := fun (_ : Unit) => if cs.isEmpty then rest else String.ofList ('-' :: cs) :: rest
          let value := if cs.isEmpty then rest.headD "" else String.ofList cs
          let after := if cs.isEmpty then rest.drop 1 else rest
          match c with
          | 'i' => envOrder fuel { o with environment := [] } (again ())
          | '0' | 'v' => envOrder fuel o (again ())
          | 'u' => envOrder fuel { o with environment := o.environment.unset value } after
          | 'C' => envOrder fuel { o with directory := some value } after
          | 'S' => envOrder fuel o (splitWords (value.length + 1) none none value.toList ++ after)
          | c => .error ("invalid option -- '" ++ String.ofList [c] ++ "'")
        | _ => .ok (settings args)

/-! ## Limits of time -/

structure TimeoutOrder where
  duration : Nat
  signal : Nat := 15
  killAfter : Option Nat := none
  keepStatus : Bool := false
  command : List String

/-- reads the arguments of `timeout`; nothing means that they are too few -/
def timeoutOrder (args : List String) : Except (Option String) TimeoutOrder := do
  let c ← (Choices.parseEarly
    [⟨"s", ["signal"], true⟩, ⟨"k", ["kill-after"], true⟩, ⟨"v", ["verbose"], false⟩, ⟨"p", ["preserve-status"], false⟩,
     ⟨"f", ["foreground"], false⟩] args).mapError some
  let time := fun (s : String) =>
    match Tool.duration? s with
    | some n => Except.ok n
    | none => .error (some ("invalid time interval " ++ Tooling.literal s))
  let killAfter ← match c.value? "k" with
    | some s => do pure (some (← time s))
    | none => pure none
  let signal ← match c.value? "s" with
    | some s =>
      match Signal.number? s with
      | some n => pure n
      | none => throw (some (Tooling.literal s ++ ": invalid signal"))
    | none => pure 15
  match c.operands with
  | limit :: program :: rest =>
    return { duration := ← time limit, signal, killAfter, keepStatus := c.has "p", command := program :: rest }
  | _ => throw none

/-! ## Arguments from the input -/

/-- how the input is cut into arguments, and how many of them a call takes -/
structure XargsOrder where
  perCall : Option Nat := none
  perLines : Option Nat := none
  replaced : Option String := none
  skipEmpty : Bool := false
  isTraced : Bool := false
  /-- the character between arguments; otherwise blanks, and quotes keep them -/
  mark : Option Char := none
  /-- the argument that ends the input -/
  last : Option String := none
  file : Option String := none
  command : List String

/-- a number that an option gives -/
def countOf (key : String) (value : Option String) : Except String (Option Nat) :=
  match value with
  | none => .ok none
  | some v =>
    match v.toNat? with
    | none => .error ("invalid number \"" ++ v ++ "\" for -" ++ key ++ " option")
    | some 0 => .error ("value " ++ v ++ " for -" ++ key ++ " option should be >= 1")
    | some n => .ok (some n)

/-- reads the arguments of `xargs` -/
def xargsOrder (args : List String) : Except String XargsOrder := do
  let c ← Choices.parseEarly
    [⟨"0", ["null"], false⟩, ⟨"d", ["delimiter"], true⟩, ⟨"n", ["max-args"], true⟩, ⟨"I", ["replace"], true⟩,
     ⟨"i", [], false⟩, ⟨"r", ["no-run-if-empty"], false⟩, ⟨"t", ["verbose"], false⟩, ⟨"P", ["max-procs"], true⟩,
     ⟨"L", ["max-lines"], true⟩, ⟨"s", ["max-chars"], true⟩, ⟨"x", ["exit"], false⟩, ⟨"a", ["arg-file"], true⟩,
     ⟨"E", [], true⟩] args
  let replaced := (c.value? "I").orElse fun _ => if c.has "i" then some "\x7b\x7d" else none
  let mark := if c.has "0" then some (Char.ofNat 0)
    else (c.value? "d").map fun d => match d with
      | "\\n" => '\n'
      | "\\0" => Char.ofNat 0
      | "\\t" => '\t'
      | d => d.toList.headD '\n'
  return {
    perCall := ← countOf "n" (c.value? "n"), perLines := ← countOf "L" (c.value? "L"), replaced
    skipEmpty := c.has "r" || replaced.isSome, isTraced := c.has "t", mark, last := c.value? "E", file := c.value? "a"
    command := if c.operands.isEmpty then ["echo"] else c.operands }

/-- what the input holds: the words of each line, and what is wrong after the last of them -/
structure Supply where
  lines : List (List String)
  mistake : Option String := none

/-- the words of a text, line by line: quotes keep blanks, and a backslash keeps a character. A quote ends on its line -/
def supplyOf (quote : Option Char) (word : Option (List Char)) (line : List String) : List Char → Supply
  | [] =>
    match quote with
    | some q =>
      { lines := [line.reverse], mistake := some ("unmatched " ++ (if q = '"' then "double" else "single") ++
          " quote; by default quotes are special to xargs unless you use the -0 option") }
    | none => { lines := [(close word line).reverse] }
  | '\\' :: c :: rest =>
    if quote.isSome then supplyOf quote (some (c :: '\\' :: word.getD [])) line rest
    else supplyOf quote (some (c :: word.getD [])) line rest
  | c :: rest =>
    match quote with
    | some q =>
      if c = q then supplyOf none (some (word.getD [])) line rest
      else if c = '\n' then supplyOf quote word line []
      else supplyOf quote (some (c :: word.getD [])) line rest
    | none =>
      if c = '\'' || c = '"' then supplyOf (some c) (some (word.getD [])) line rest
      else if c = '\n' then
        let more := supplyOf none none [] rest
        { more with lines := (close word line).reverse :: more.lines }
      else if c = ' ' || c = '\t' then supplyOf none none (close word line) rest
      else supplyOf none (some (c :: word.getD [])) line rest
where
  /-- the words of a line, last first, with the one at hand -/
  close (word : Option (List Char)) (line : List String) : List String :=
    match word with
    | some cs => String.ofList cs.reverse :: line
    | none => line

/-- the commands that are to be run on an input, and what is wrong with it -/
def XargsOrder.commands (o : XargsOrder) (text : List Char) : List (List String) × Option String :=
  let supply : Supply := match o.mark with
    | some mark =>
      let pieces := text.splitOn mark
      { lines := ((if pieces.getLast? = some [] then pieces.dropLast else pieces).map fun cs => [String.ofList cs]) }
    | none =>
      if o.replaced.isSome then
        { lines := (linesOf text).map fun l => [String.ofList (l.dropWhile fun c => c = ' ' || c = '\t')] }
      else supplyOf none none [] text
  let lines := supply.lines.filter fun l => l ≠ [] && (o.mark.isSome || o.replaced.isNone || l ≠ [""])
  let items := match o.last with
    | some word => lines.flatten.takeWhile (· ≠ word)
    | none => lines.flatten
  let whole := fun (n : Nat) (gs : List (List (List String))) =>
    if supply.mistake.isSome then gs.filter (·.length = n) else gs
  let calls := match o.replaced, o.perLines, o.perCall with
    | some mark, _, _ => items.map fun i => o.command.map fun w => w.replace mark i
    | none, some n, none => (whole n (inGroups n (lines.length + 1) lines)).map fun g => o.command ++ g.flatten
    | none, _, some n =>
      (whole n (inGroups n (items.length + 1) (items.map fun i => [i]))).map fun g => o.command ++ g.flatten
    | none, none, none => if supply.mistake.isSome then [] else [o.command ++ items]
  (if items.isEmpty then (if o.skipEmpty || supply.mistake.isSome then [] else [o.command]) else calls, supply.mistake)

end Benchwork.Shell.Starter
