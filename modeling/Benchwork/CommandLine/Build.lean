/-
The command that builds repositories.

The repositories go to a directory next to the manifest unless another one is named. Runtimes come from the arguments, or
else from the environment, or else they are the usual ones.
-/
import Benchwork.Build.JavaRuntime
import Benchwork.CommandLine.Usage

namespace Benchwork.CommandLine

open Benchwork.Build Benchwork.Text

/-- what the arguments of the command say -/
structure BuildCommand where
  manifest : String := "repos.txt"
  reposDir : Option String := none
  runtimes : List String := []
  deriving DecidableEq, Repr

inductive BuildOption where
  | manifest
  | reposDir
  | runtimes
  | help
  deriving DecidableEq, Repr

namespace BuildCommand

/-- what the values of an option do -/
def take (key : BuildOption) (values : List String) (c : BuildCommand) : Except UsageError BuildCommand :=
  match key with
  | .manifest =>
    if values.contains "" then .error .missingValue else .ok { c with manifest := "".intercalate values }
  | .reposDir =>
    if values.contains "" then .error .missingValue else .ok { c with reposDir := some ("".intercalate values) }
  | .runtimes => .ok { c with runtimes := c.runtimes ++ values }
  | .help => .error .help

def grammar : Grammar BuildOption BuildCommand where
  flags :=
    [{ key := .manifest, short := some 'm', long := some "manifest", arity := .one },
     { key := .reposDir, long := some "repos-dir", arity := .one },
     { key := .runtimes, short := some 'r', long := some "runtime", arity := .one, repeats := true },
     { key := .help, short := some 'h', long := some "help" }]
  other := none
  take := take

/-- reads the arguments of the command -/
def read (args : List String) : Except UsageError BuildCommand := grammar.read {} args

end BuildCommand

structure BuildConfig where
  manifest : Path
  reposDir : Path
  runtimes : List JavaRuntime
  deriving DecidableEq, Repr

namespace BuildConfig

/-- the directory for repositories next to a manifest -/
def besideManifest (manifest : Path) : Path := (manifest.parent?.getD ⟨[]⟩).join (Path.ofString "repos")

/-- the runtimes of the arguments, of the environment or the usual ones; a blank value in the environment is none -/
def chooseRuntimes (given : List String) (environment : Option String) : Except BuildError (List JavaRuntime) :=
  if given ≠ [] then JavaRuntime.parseEach (given.map String.toList)
  else
    match environment.filter fun v => !isBlankText v with
    | some list => JavaRuntime.parseList list
    | none => .ok JavaRuntime.defaults

/-- what follows from the paths and runtimes that are given and from the environment -/
def ofParts (manifest : Path) (reposDir : Option Path) (given : List String) (environment : Option String) :
    Except BuildError BuildConfig :=
  (chooseRuntimes given environment).map fun runtimes =>
    { manifest, reposDir := reposDir.getD (besideManifest manifest), runtimes }

/-- what follows from the arguments and the environment -/
def ofCommand (c : BuildCommand) (environment : Option String) : Except BuildError BuildConfig :=
  ofParts (Path.ofString c.manifest) (c.reposDir.map Path.ofString) c.runtimes environment

end BuildConfig

end Benchwork.CommandLine
