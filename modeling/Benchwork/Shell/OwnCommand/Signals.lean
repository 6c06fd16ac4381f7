/-
Commands for signals.

A signal that is ignored is not heard by the programs that a shell starts either. A shell can reach itself, the process
that it comes from, and its jobs.
-/
import Benchwork.Number.Whole
import Benchwork.Shell.OwnCommand.Basic

namespace Benchwork.Shell.OwnCommand

open Benchwork.Text

/-! ## Traps -/

/-- the signal that a shell means, or another occasion of the extended one -/
def occasion? (dialect : Dialect) (s : String) : Option Nat :=
  match dialect, s with
  | .extended, "DEBUG" => some Signal.everyCommand
  | .extended, "ERR" => some Signal.failure
  | .extended, "RETURN" => some Signal.leavingFunction
  | _, _ => Signal.number? s

def occasionName (dialect : Dialect) (n : Nat) : String :=
  if n = Signal.everyCommand then "DEBUG"
  else if n = Signal.failure then "ERR"
  else if n = Signal.leavingFunction then "RETURN"
  else if n = 0 || dialect = .plain then Signal.name n
  else "SIG" ++ Signal.name n

/-- prints what is done on signals, on all or on some -/
def printTraps (only : List String) : Running Nat := do
  let f ← Running.frame
  let wanted := only.filterMap (occasion? f.dialect)
  for (n, action) in (f.traps.filter fun t => only.isEmpty || wanted.contains t.1).mergeSort fun a b => a.1 ≤ b.1 do
    let name := occasionName f.dialect n
    Running.say ("trap -- " ++ Expansion.inQuotes action ++ " " ++ name ++ "\n")
  return 0

/-- all signals with their numbers, five on a line -/
def signalList : String :=
  let real := (List.range 16).map fun i => (34 + i, if i = 0 then "RTMIN" else "RTMIN+" ++ toString i)
  let late := (List.range 15).map fun i => (50 + i, if i = 14 then "RTMAX" else "RTMAX-" ++ toString (14 - i))
  let all := (Signal.table.map fun e => (e.2, e.1)) ++ real ++ late
  let cells := all.zipIdx.map fun ((n, name), i) =>
    (if n < 10 then " " else "") ++ toString n ++ ") SIG" ++ name ++ (if i % 5 = 4 then "\n" else "\t")
  String.join cells ++ "\n"

/-- sets what is done on signals; nothing means that they are not heard -/
def setTraps (action : Option String) (signals : List String) : Running Nat := do
  let mut code := 0
  let f ← Running.frame
  for s in signals do
    match occasion? f.dialect s with
    | none => do
      if ← Running.isPlain then Running.modifyProcess (·.complain ("trap: " ++ s ++ ": bad trap\n"))
      else Running.complain (s ++ ": invalid signal specification")
      code := 1
    | some n => do
      if code = 0 then
        Running.modifyFrame fun f =>
          let others := f.traps.filter (·.1 ≠ n)
          { f with
            traps := match action with
              | some a => others ++ [(n, a)]
              | none => others }
        Running.modifyProcess fun p =>
          let others := p.ignored.filter (· ≠ n)
          { p with ignored := if action = some "" then n :: others else others }
  return code

def trap (args : List String) : Running Nat := do
  let args := if args.head? = some "--" then args.tail else args
  match args with
  | [] | ["-p"] => printTraps []
  | "-p" :: only => printTraps only
  | ["-l"] => do
    Running.say signalList
    return 0
  | [one] => setTraps none [one]
  | action :: signals =>
    if action = "-" then setTraps none signals
    else if Number.digits? action.toList |>.isSome then setTraps none args
    else setTraps (some action) signals

/-! ## Sending -/

/-- a process that can be sent a signal -/
inductive Receiver where
  | self
  | outside (pid : Nat)
  | job (pid : Nat)
  | nobody

def receiver (s : State) (pid : Int) : Receiver :=
  if pid ≤ 0 || pid = s.process.pid then .self
  else if s.jobs.any fun j => (j.pid : Int) = pid then .job pid.toNat
  else if pid = s.frame.main || pid = s.process.parent then .outside pid.toNat
  else .nobody

/-- sends a signal to one of the processes that a shell can reach -/
def sendTo (signal : Nat) (r : Receiver) : Running Bool := do
  match r with
  | .self => do
    let pid := (← Running.process).pid
    if signal ≠ 0 then Running.modifyProcess fun p => { p with pending := p.pending ++ [(pid, signal)] }
    return true
  | .outside pid => do
    if signal ≠ 0 then Running.modifyProcess fun p => { p with pending := p.pending ++ [(pid, signal)] }
    return true
  | .job pid => do
    let s ← get
    match s.jobs.find? (·.pid = pid) with
    | some j =>
      if j.ending.isSome then return false
      else do
        if !Signal.isHarmless signal && !j.process.ignored.contains signal then
          let strike : Strike := { time := s.process.clock, signal, receiver := some j.process.pid }
          let struck := { j with process := { j.process with strikes := Strike.ordered (strike :: j.process.strikes) } }
          set { s with jobs := s.jobs.map fun (k : Job) => if k.pid = pid then struck else k }
        return true
    | none => return false
  | .nobody => return false

def listSignals (args : List String) : Running Nat := do
  let plain ← Running.isPlain
  match args with
  | [] =>
    if plain then Running.say (String.join ("0\n" :: Signal.table.map fun e => e.1 ++ "\n"))
    else Running.say signalList
    return 0
  | first :: _ => do
    let mut code := 0
    for a in if plain then [first] else args do
      match a.toNat? with
      | some n =>
        let n := if n > 128 then n - 128 else n
        if n > 64 then
          let c ← refuse ("invalid signal number or exit status: " ++ a) (a ++ ": invalid signal specification") 1
          code := c
        else Running.say (Signal.name n ++ "\n")
      | none =>
        if plain then Running.fail ("Illegal number: " ++ a)
        else Running.say (toString ((Signal.number? a).getD 0) ++ "\n")
    return code

def kill (args : List String) : Running Nat := do
  let f ← Running.frame
  let plain := f.dialect = .plain
  let usage := if plain then
      Running.fail "Usage: kill [-s sigspec | -signum | -sigspec] [pid | job]... or\nkill -l [exitstatus]"
    else do
      Running.modifyProcess (·.complain
        "kill: usage: kill [-s sigspec | -n signum | -sigspec] pid | jobspec ... or kill -l [sigspec]\n")
      return 2
  let badSignal := fun (name : String) =>
    refuse ("invalid signal number or name: " ++ name) (name ++ ": invalid signal specification") 1
  let send := fun (signal : Nat) (targets : List String) => do
    let targets := if targets.head? = some "--" then targets.tail else targets
    if targets.isEmpty then usage
    else do
      let mut code := 0
      for t in targets do
        let s ← get
        let pid? : Option Int := match t.toList with
          | '%' :: _ => (s.frame.lastJob).map fun n => (n : Int)
          | cs => Number.signedWhole? cs
        match pid? with
        | none => do
          if t.startsWith "%" && !plain then
            Running.complain (t ++ ": no such job")
            code := 1
            continue
          let c ← refuse ("Illegal number: " ++ t) (t ++ ": arguments must be process or job IDs") 1
          code := c
        | some pid =>
          if !(← sendTo signal (receiver s pid)) then
            if plain then Running.complain "No such process\n"
            else Running.complain ("(" ++ t ++ ") - No such process")
            code := 1
      return code
  match args with
  | [] => usage
  | "-l" :: rest | "-L" :: rest => listSignals rest
  | "-s" :: name :: rest | "-n" :: name :: rest =>
    match Signal.number? name with
    | some n => send n rest
    | none => badSignal name
  | "--" :: rest => send 15 rest
  | a :: rest =>
    match a.toList with
    | '-' :: c :: cs =>
      match Signal.number? (String.ofList (c :: cs)) with
      | some n => send n rest
      | none => if plain then Running.fail ("Illegal option -" ++ String.ofList [c]) else badSignal (String.ofList (c :: cs))
    | _ => send 15 args

end Benchwork.Shell.OwnCommand
