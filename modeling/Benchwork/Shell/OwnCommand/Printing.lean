/-
Commands that print, and conditions.
-/
import Benchwork.Shell.OwnCommand.Basic
import Benchwork.Shell.Tool.Machine

namespace Benchwork.Shell.OwnCommand

open Benchwork.Text

def echo (args : List String) : Running Nat := do
  if ← Running.isPlain then
    let (newline, rest) := match args with
      | "-n" :: rest => (false, rest)
      | rest => (true, rest)
    Running.say (Tool.echoText .plain newline true rest)
  else
    let (newline, escapes, rest) := Tool.echoOptions "neE" true false args
    Running.say (Tool.echoText .extended newline escapes rest)
  return 0

def printf (args : List String) : Running Nat := do
  let plain ← Running.isPlain
  let (target, args) := match args with
    | "-v" :: name :: rest => if plain then (none, args) else (some name, rest)
    | _ => (none, args)
  let (args, marked) := match args with
    | "--" :: rest => (rest, true)
    | _ => (args, false)
  match args with
  | [] =>
    if plain then Running.fail "usage: printf format [arg ...]"
    else do
      Running.modifyProcess (·.complain "printf: usage: printf [-v var] format [arguments]\n")
      return 2
  | form :: rest =>
    match form.toList with
    | '-' :: c :: _ =>
      if !marked then
        if plain then Running.fail ("Illegal option -" ++ String.ofList [c])
        else do
          Running.complain ("-" ++ String.ofList [c] ++ ": invalid option")
          Running.modifyProcess (·.complain "printf: usage: printf [-v var] format [arguments]\n")
          return 2
      else print plain target form rest
    | _ => print plain target form rest
where
  print (plain : Bool) (target : Option String) (form : String) (rest : List String) : Running Nat := do
    let w := Format.print (if plain then .plain else .extended) form rest
    for message in w.complaints do
      Running.complain message
    match target with
    | some name => Running.assign name (String.ofList w.text)
    | none => Running.say (String.ofList w.text)
    return w.status

/-- what a condition can ask about the shell -/
def scopeOf (s : State) : Condition.Scope :=
  { isSet := fun name => (s.parameter? name).isSome, isOn := s.frame.switches.contains }

def test (args : List String) : Running Nat := do
  let s ← get
  let verdict := if s.frame.dialect = .plain then Condition.plain s.process args
    else Condition.extended s.process (scopeOf s) args
  match verdict with
  | .ok b => return if b then 0 else 1
  | .error message => refuse message message 2

def bracket (args : List String) : Running Nat := do
  if args.getLast? = some "]" then test args.dropLast
  else refuse "missing ]" ("missing " ++ tick ++ "]'") 2

end Benchwork.Shell.OwnCommand
