/-
Running commands as processes.

The program is started in the command's directory, with the command's variables on top of the environment. It may fail to
start: a text of the command holds a zero byte, the directory is not there, or no program is found. What it
prints is added to what was printed before.
-/
import Benchwork.Build.Runner
import Benchwork.Shell.Interpreter

namespace Benchwork.Build.Host

open Benchwork.Shell Benchwork.Text

/-- what the programs have printed so far -/
structure Streams where
  output : List UInt8 := []
  errors : List UInt8 := []
  deriving DecidableEq, Repr

/-- no text of the command holds a zero byte -/
def isClean (c : Command) : Bool :=
  let clean := fun (s : String) => !s.contains (Char.ofNat 0)
  clean c.program && c.args.all clean && c.env.all (fun e => clean e.1 && clean e.2) &&
    c.cwd.all fun d => !d.bytes.contains 0

/-- the environment that a command asks for: the entries in the order of their names, as the new process reads them -/
def environmentOf (environment : Environment) (c : Command) : Environment :=
  let entries := (environment.setAll c.env).map fun e => (Octets.ofText e.1, Octets.ofText e.2)
  Environment.received (entries.mergeSort fun a b => decide (a.1 ≤ b.1))

/-- the process that a command asks for, with what it runs -/
def prepare (environment : Environment) (c : Command) (streams : Streams) (fs : FileStore) :
    Except Fault (Process × Invocation) := do
  if !isClean c then throw .nulInArgument
  let p : Process :=
    { files := fs, environment := environmentOf environment c, printed := streams.output, complaints := streams.errors }
  let p ← match c.cwd with
    | some dir => p.enter dir
    | none => pure p
  return (p, ← Image.locate p.files p.environment (Octets.ofText c.program) (c.args.map Octets.ofText))

/-- the answer to a command whose process has ended -/
def answer (c : Command) : Ending → Except BuildError Unit
  | .exit 0 => .ok ()
  | .exit code => .error (.commandFailed c.line (some code))
  | .signal _ => .error (.commandFailed c.line none)

/-- runs commands as processes with an environment -/
def runner (environment : Environment) : Runner Streams where
  run c streams fs :=
    match prepare environment c streams fs with
    | .error e => (.error (.spawn c.line e), streams, fs.root)
    | .ok (p, invocation) =>
      let (ending, q) := start patience invocation p
      (answer c ending, ⟨q.printed, q.complaints⟩, q.files.root)

end Benchwork.Build.Host
