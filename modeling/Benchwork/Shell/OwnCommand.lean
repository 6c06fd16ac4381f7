/-
The commands that a shell carries out itself.

They work on the shell's own state: its status, directory, variables, arguments, switches and traps. Those that run other
scripts or programs are part of the interpreter.
-/
import Benchwork.Shell.OwnCommand.Directory
import Benchwork.Shell.OwnCommand.Mask
import Benchwork.Shell.OwnCommand.Names
import Benchwork.Shell.OwnCommand.Printing
import Benchwork.Shell.OwnCommand.Reading
import Benchwork.Shell.OwnCommand.Settings
import Benchwork.Shell.OwnCommand.Signals
import Benchwork.Shell.OwnCommand.Variables

namespace Benchwork.Shell.OwnCommand

def times (_ : List String) : Running Nat := do
  let zero := if ← Running.isPlain then "0m0.000000s 0m0.000000s\n" else "0m0.000s 0m0.000s\n"
  Running.say (zero ++ zero)
  return 0

def noJob (args : List String) : Running Nat := do
  let _ := args
  refuse "No current job" "no job control" 1

/-- where the function being run was called from -/
def caller (_ : List String) : Running Nat := do
  let f ← Running.frame
  if f.calls.isEmpty then do
    Running.say "0 NULL\n"
    return 0
  else do
    Running.say (toString f.line ++ " " ++ f.name ++ "\n")
    return 0

def logout (_ : List String) : Running Nat := do
  Running.complain ("not login shell: use " ++ tick ++ "exit'")
  return 1

/-- forgets about a job -/
def disown (args : List String) : Running Nat := do
  let s ← get
  match args, s.jobs.filter (·.ending.isNone) with
  | [], [] => do
    Running.complain "current: no such job"
    return 1
  | _, _ => return 0

/-- the command of a name, if it runs nothing else -/
def find? (dialect : Dialect) (name : String) : Option (List String → Running Nat) :=
  match name with
  | ":" | "true" => some fun _ => return 0
  | "false" => some fun _ => return 1
  | "exit" => some exit
  | "return" => some back
  | "break" => some (leaveLoop .leaveLoop)
  | "continue" => some (leaveLoop .nextRound)
  | "shift" => some shift
  | "set" => some setOptions
  | "export" => some exportNames
  | "readonly" => some fixNames
  | "unset" => some unset
  | "local" => some localise
  | "cd" => some changeDirectory
  | "pwd" => some printDirectory
  | "echo" => some echo
  | "printf" => some printf
  | "test" => some test
  | "[" => some bracket
  | "read" => some read
  | "getopts" => some nextOption
  | "trap" => some trap
  | "kill" => some kill
  | "type" => some describe
  | "hash" => some hash
  | "umask" => some umask
  | "ulimit" => some fun args => do
    if args.all (·.startsWith "-") then Running.say "unlimited\n"
    return 0
  | "times" => some times
  | "jobs" => some fun _ => return 0
  | "fg" | "bg" => some noJob
  | "alias" => some setAliases
  | "unalias" => some dropAliases
  | _ =>
    match dialect, name with
    | .extended, "declare" | .extended, "typeset" => some declare
    | .extended, "let" => some calculateAll
    | .extended, "mapfile" | .extended, "readarray" => some readLines
    | .extended, "shopt" => some shopt
    | .extended, "pushd" => some pushDirectory
    | .extended, "popd" => some popDirectory
    | .extended, "dirs" => some showDirectories
    | .extended, "caller" => some caller
    | .extended, "logout" => some logout
    | .extended, "suspend" => some fun _ => do
      Running.complain "cannot suspend: no job control"
      return 1
    | .extended, "disown" => some disown
    | .extended, "enable" | .extended, "history" | .extended, "help" | .extended, "compgen" => some fun _ => return 0
    | _, _ => none

end Benchwork.Shell.OwnCommand
