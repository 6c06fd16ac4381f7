/-
The whole command line: a subcommand and its arguments.

Before the subcommand the program can be asked for help and for its version. The subcommand `help` shows help on the
program or on another subcommand.
-/
import Benchwork.CommandLine.Build
import Benchwork.CommandLine.Plot

namespace Benchwork.CommandLine

inductive Invocation where
  | build (c : BuildCommand)
  | plot (c : PlotCommand)
  deriving DecidableEq, Repr

inductive TopOption where
  | help
  | version
  deriving DecidableEq, Repr

namespace Invocation

/-- the options before the subcommand -/
def topGrammar : Grammar TopOption Unit where
  flags :=
    [{ key := .help, short := some 'h', long := some "help" },
     { key := .version, short := some 'V', long := some "version" }]
  other := none
  take key _ _ := match key with
    | .help => .error .help
    | .version => .error .version

def commands : List String := ["build", "plot", "help"]

/-- help on the program or on one of its subcommands, which have none of their own -/
def helpOn : List String → UsageError
  | [] => .help
  | [c] => if commands.contains c then .help else .unknownCommand
  | _ => .unknownCommand

/-- the arguments after the program's name -/
def read : List String → Except UsageError Invocation
  | [] => .error .missingCommand
  | "build" :: args => (BuildCommand.read args).map .build
  | "plot" :: args => (PlotCommand.read args).map .plot
  | "help" :: args => .error (helpOn args)
  | ["--"] => .error .missingCommand
  | "--" :: arg :: _ => .error (if commands.contains arg then .unknownArgument else .unknownCommand)
  | arg :: _ =>
    match topGrammar.step { result := () } arg with
    | .error .unknownArgument => .error (if arg ≠ "-" ∧ arg.startsWith "-" then .unknownArgument else .unknownCommand)
    | .error e => .error e
    | .ok _ => .error .unknownCommand

end Invocation

end Benchwork.CommandLine
