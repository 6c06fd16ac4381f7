/-
The command line.

The files below the current directory and those named in the arguments are read into a file store, the program is run on
it, and the files and directories that it added are written back. Commands that the program starts run inside the store:
the scripts below the current directory, and the tools that every machine has.
-/
import Benchwork.Program

namespace Benchwork.Main

open Benchwork.Text

/-- the variables that are handed to the program -/
def handedOn : List String := ["PATH", "HOME", "ROOT", "JAVA_HOME", Program.runtimesVariable]

def environment : IO Shell.Environment := do
  let mut env : Shell.Environment := []
  for v in handedOn do
    if let some value := ← IO.getEnv v then
      env := env ++ [(v, value)]
  return env

/-- a file is a script exactly if it begins like one -/
def fileNode (bytes : ByteArray) : Node :=
  let content := bytes.toList
  .file content (content.take 2 = [0x23, 0x21])

/-- reads a directory entry with everything below it; what is neither file nor directory is left out -/
partial def loadEntry (e : IO.FS.DirEntry) : IO (Option Node) := do
  match (← e.path.symlinkMetadata).type with
  | .file => return some (fileNode (← IO.FS.readBinFile e.path))
  | .dir =>
    let mut entries : List (Name × Node) := []
    for below in ← e.path.readDir do
      if let some x := ← loadEntry below then
        entries := Ordered.put (Utf8.encode below.fileName) x entries
    return some (.dir entries)
  | _ => return none

/-- the store with the current directory, and with the files named in the arguments -/
def load (args : List String) : IO FileStore := do
  let here := Path.ofString (← IO.currentDir).toString
  let base : FileStore := ⟨Shell.machine, []⟩
  let (_, fs) := base.makeDirs here
  let mut fs : FileStore := match fs.lookup .target here with
    | .ok (.found loc _) => { fs with cwd := loc }
    | _ => fs
  if let some tree := ← loadEntry ⟨".", ""⟩ then
    fs := fs.put fs.cwd tree
  for a in args do
    unless fs.pathExists (Path.ofString a) do
      try
        fs := (fs.layOut ⟨[]⟩ [.file (Path.ofString a) (← IO.FS.readBinFile a).toList false]).toOption.getD fs
      catch _ => pure ()
  return fs

/-- the path of a location below the current directory -/
def pathOf (loc : Location) : String := "/".intercalate ("." :: loc.map Utf8.lossy)

/-- writes what was added below the current directory -/
def save (before after : FileStore) : IO Unit := do
  let tree := fun (fs : FileStore) => (fs.root.get? fs.cwd).getD Node.empty
  for (loc, kind) in (tree before).additions (tree after) do
    match kind with
    | .dir => IO.FS.createDirAll (pathOf loc)
    | .file content => IO.FS.writeBinFile (pathOf loc) ⟨content.toArray⟩
    | .link _ => pure ()

end Benchwork.Main

def main (args : List String) : IO UInt32 := do
  let fs ← Benchwork.Main.load args
  let r := Benchwork.Program.run args (← Benchwork.Main.environment) fs
  (← IO.getStdout).write ⟨r.output.toArray⟩
  (← IO.getStderr).write ⟨r.errors.toArray⟩
  Benchwork.Main.save fs r.files
  return r.code.toUInt32
