/-
A runner with prepared answers.

It answers the calls in order from a list and lets every call after its end succeed. When it lets a clone succeed and
knows the URL, it lays out a prepared tree in the target directory.
-/
import Benchwork.Build.Runner

namespace Benchwork.Build.Scripted

/-- a prepared answer -/
inductive Response where
  | ok
  | fail (code : Option Int)
  | spawn (cause : Fault)
  deriving DecidableEq, Repr

def Response.answer (c : Command) : Response → Except BuildError Unit
  | .ok => .ok ()
  | .fail code => .error (.commandFailed c.line code)
  | .spawn cause => .error (.spawn c.line cause)

/-- the files after a command that succeeded: a clone of a known URL fills its target -/
def clone (trees : List (String × List FileStore.Item)) (c : Command) (fs : FileStore) : FileStore :=
  match c.program, c.args with
  | "git", ["clone", url, dir] =>
    match trees.find? (·.1 = url) with
    | some (_, items) =>
      let target := Path.ofString dir
      match (FileStore.whole (fs.makeDirs target)).bind (·.layOut target items) with
      | .ok fs' => fs'
      | .error _ => fs
    | none => fs
  | _, _ => fs

/-- answers from `responses`, by the number of calls so far -/
def runner (responses : List Response) (trees : List (String × List FileStore.Item)) : Runner Nat where
  run c calls fs :=
    match responses[calls]?.getD .ok with
    | .ok => (.ok (), calls + 1, (clone trees c fs).root)
    | r => (r.answer c, calls + 1, fs.root)

end Benchwork.Build.Scripted
