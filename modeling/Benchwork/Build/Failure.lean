/-
Why a build can fail.

One constructor for each cause; `message` has the wording, `causes` the texts of the failures underneath, outermost
first.
-/
import Benchwork.Files.Fault
import Benchwork.Files.Path

namespace Benchwork.Build

open Benchwork.Text

/-- what went wrong with a file: an operation on it, or reading a directory tree from it on -/
inductive Trouble where
  | fault (f : Fault)
  | walk (path : Path) (f : Fault)
  deriving DecidableEq, Repr

namespace Trouble

def message : Trouble → String
  | .fault f => f.message
  | .walk path f => s!"IO error for operation on {path.display}: {f.message}"

def causes : Trouble → List String
  | .fault _ => []
  | .walk _ f => [f.message]

end Trouble

inductive BuildError where
  | spawn (command : String) (cause : Fault)
  | commandFailed (command : String) (code : Option Int)
  | noRuntimes
  | unknownBuildSystem (repository : Path) (entries : List String)
  | gradleDependencies (repository : Path)
  | manifestLine (line : Nat) (content : String)
  | invalidRuntime (value : String)
  | pathNotText (path : Path)
  | file (path : Path) (trouble : Trouble)
  deriving DecidableEq, Repr

namespace BuildError

/-- how a command ended that did not succeed -/
def ending : Option Int → String
  | some code => s!"exit code {code}"
  | none => "no exit code (killed by signal)"

/-- the text shown for a failure -/
def message : BuildError → String
  | .spawn command cause => "failed to start `" ++ command ++ "`: " ++ cause.message
  | .commandFailed command code => "`" ++ command ++ "` failed with " ++ ending code
  | .noRuntimes => "no runtime environments configured"
  | .unknownBuildSystem repository entries =>
    s!"don't know how to build {repository.quoted}, top-level entries: {quoteList entries}"
  | .gradleDependencies repository =>
    s!"copying dependencies is not supported for gradle projects ({repository.quoted}), rebuild with gradle instead"
  | .manifestLine line content => s!"malformed manifest line {line}: {quote content}"
  | .invalidRuntime value => s!"invalid runtime {quote value}, expected NAME=JAVA_HOME"
  | .pathNotText path => s!"repository path {path.quoted} is not valid UTF-8"
  | .file path trouble => s!"I/O error on {path.quoted}: {trouble.message}"

/-- the failures underneath, outermost first -/
def causes : BuildError → List String
  | .spawn _ cause => [cause.message]
  | .file _ trouble => trouble.message :: trouble.causes
  | _ => []

/-- a command ran and did not succeed -/
def isCommandFailed : BuildError → Bool
  | .commandFailed _ _ => true
  | _ => false

end BuildError

end Benchwork.Build
