/-
Running commands.

A runner is anything that takes a command and answers whether it succeeded; on the way it may change its own state and
the file tree, but not the directory in which it was started. A session is a computation that issues commands through a
runner: it keeps the world as it is when it fails, and the world keeps a record of every command issued with its answer,
oldest first.

`underRuntimes` runs a build step under one Java runtime after another, until it succeeds or fails in another way than
by its exit code.
-/
import Benchwork.Build.Command
import Benchwork.Build.JavaRuntime
import Benchwork.Files.Store

namespace Benchwork.Build

/-- answers commands; `σ` is what it remembers -/
structure Runner (σ : Type) where
  run : Command → σ → FileStore → Except BuildError Unit × σ × Node

/-- a command and the answer to it -/
structure Issued where
  command : Command
  answer : Except BuildError Unit

/-- the files, the runner's memory and the commands issued so far -/
structure World (σ : Type) where
  files : FileStore
  memory : σ
  issued : List Issued := []

/-- a computation on the world that can fail; the world stays as it is then -/
abbrev Session (σ : Type) := ExceptT BuildError (StateM (World σ))

namespace Session

variable {σ : Type}

/-- a question about the files -/
def ask {α : Type} (f : FileStore → α) : Session σ α := do return f (← get).files

/-- a change of the files at `path` -/
def change (path : Path) (f : FileStore → Except Fault FileStore) : Session σ Unit := do
  match f (← get).files with
  | .ok files => modify fun w => { w with files }
  | .error e => throw (.file path (.fault e))

/-- makes a directory and the directories above it -/
def makeDirs (path : Path) : Session σ Unit := do
  let (result, files) := (← get).files.makeDirs path
  modify fun w => { w with files }
  match result with
  | .ok () => return ()
  | .error e => throw (.file path (.fault e))

/-- has the runner run a command, and records it -/
def issue (runner : Runner σ) (c : Command) : Session σ Unit := do
  let w ← get
  let (answer, memory, root) := runner.run c w.memory w.files
  set ({ files := { w.files with root }, memory, issued := w.issued ++ [⟨c, answer⟩] } : World σ)
  match answer with
  | .ok () => return ()
  | .error e => throw e

/-- tries the runtimes in order; `last` is the failure to report when none are left -/
def tryRuntimes (runner : Runner σ) (c : Command) (last : BuildError) : List JavaRuntime → Session σ JavaRuntime
  | [] => throw last
  | r :: rest =>
    tryCatch (do issue runner (c.withEnv "JAVA_HOME" r.home); return r) fun e =>
      if e.isCommandFailed then tryRuntimes runner c e rest else throw e

/-- runs a command under the first runtime with which it succeeds -/
def underRuntimes (runner : Runner σ) (runtimes : List JavaRuntime) (c : Command) : Session σ JavaRuntime :=
  tryRuntimes runner c .noRuntimes runtimes

end Session

end Benchwork.Build
