/-
Program files.

A program is found by its path, or by its name along the search path. An executable file holds a tool of the machine, or
begins with a line that names the interpreter to run it with. `machine` is a file tree that has every tool.
-/
import Benchwork.Shell.Toolbox

namespace Benchwork.Shell

open Benchwork.Text

/-- what an executable file holds -/
inductive Image where
  | tool (name : String)
  | script (interpreter : String) (argument : Option String)
  deriving DecidableEq, Repr

/-- a tool about to run: what it is, the name it is called by, and its arguments -/
structure Invocation where
  tool : String
  name : String
  args : List String
  deriving DecidableEq, Repr

namespace Image

/-- the first bytes of a tool: what kind of file it is, and zeros -/
def magic : List UInt8 := [0x7F, 0x45, 0x4C, 0x46, 2, 1, 1, 0, 0, 0, 0, 0, 0, 0, 0, 0]

/-- the content of a tool's file -/
def ofTool (name : String) : List UInt8 := magic ++ Utf8.encode name

/-- how much of a file is looked at for the name of an interpreter -/
def lineLimit : Nat := 256

/-- the interpreter named in the first line, and the one argument for it; a line that is cut off within the name names
none -/
def interpreter? (content : List UInt8) : Option (String × Option String) :=
  match content.take lineLimit with
  | 0x23 :: 0x21 :: start =>
    let isGap := fun (b : UInt8) => b = 0x20 || b = 0x09
    let isEnd := fun (b : UInt8) => isGap b || b = 0
    let text := start.takeWhile fun b => b ≠ 0x0A && b ≠ 0
    let name := (text.dropWhile isGap).takeWhile fun b => !isEnd b
    let rest := ((text.dropWhile isGap).dropWhile fun b => !isEnd b).dropWhile isGap
    let argument := (rest.reverse.dropWhile isGap).reverse
    let isCutOff := text.length + 2 = lineLimit && ((text.dropWhile isGap).dropWhile fun b => !isEnd b).isEmpty
    if name.isEmpty || isCutOff then none
    else some (Octets.ofBytes name, if argument.isEmpty then none else some (Octets.ofBytes argument))
  | _ => none

/-- what a file holds -/
def ofContent? (content : List UInt8) : Option Image :=
  if content.take magic.length = magic then
    let name := Octets.ofBytes (content.drop magic.length)
    if Toolbox.names.contains name then some (.tool name) else none
  else (interpreter? content).map fun (name, argument) => .script name argument

/-- what the file at a path holds, if it can be executed -/
def load (fs : FileStore) (path : String) : Except Fault Image :=
  match fs.node .target (Process.pathOf path) with
  | .error e => .error e
  | .ok (.file content true) =>
    match ofContent? content with
    | some image => .ok image
    | none => .error .badExecutable
  | .ok _ => .error .denied

/-- the tool that runs in the end; `levels` interpreters may have interpreters themselves -/
def resolve (fs : FileStore) (levels : Nat) (name path : String) (args : List String) : Except Fault Invocation :=
  match load fs path with
  | .error e => .error e
  | .ok (.tool t) => .ok ⟨t, name, args⟩
  | .ok (.script interpreter argument) =>
    match levels with
    | 0 => .error .tooManyLinks
    | levels + 1 => resolve fs levels interpreter interpreter (argument.toList ++ path :: args)

/-- interpreters of interpreters that are followed -/
def levelLimit : Nat := 5

/-- the directories of a search path; an empty one is the current directory -/
def directories (path : String) : List String := (path.toList.splitOn ':').map String.ofList

/-- where a name can stand for a program -/
def candidates (path program : String) : List String :=
  (directories path).map fun dir => if dir = "" then program else dir ++ "/" ++ program

/-- tries the candidates in order; a file that must not be executed is remembered and passed over -/
def firstOf (fs : FileStore) (name : String) (args : List String) (failure : Fault) :
    List String → Except Fault Invocation
  | [] => .error failure
  | path :: rest =>
    match resolve fs levelLimit name path args with
    | .ok found => .ok found
    | .error .denied => firstOf fs name args .denied rest
    | .error .notFound | .error .notDirectory => firstOf fs name args failure rest
    | .error e => .error e

/-- the search path of an environment that has none -/
def defaultPath : String := "/bin:/usr/bin"

/-- the tool that a program's name leads to -/
def locate (fs : FileStore) (env : Environment) (program : String) (args : List String) : Except Fault Invocation :=
  if program = "" then .error .notFound
  else if program.contains '/' then resolve fs levelLimit program program args
  else firstOf fs program args .notFound (candidates ((env.get? "PATH").getD defaultPath) program)

/-- the first file along a search path that a shell would run -/
def whereIs (fs : FileStore) (path program : String) : Option String :=
  let isProgram := fun (name : String) =>
    match fs.node .target (Process.pathOf name) with
    | .ok (.file _ executable) => executable
    | _ => false
  if program.contains '/' then (if isProgram program then some program else none)
  else (candidates path program).find? isProgram

end Image

/-- a file tree with every tool -/
def machine : Node :=
  let name := Utf8.encode
  let dir := fun (entries : List (String × Node)) =>
    Node.dir ((entries.map fun e => (name e.1, e.2)).mergeSort fun a b => decide (a.1 ≤ b.1))
  let link := fun (target : String) => Node.link (Path.ofString target)
  let text := fun (content : String) => Node.file (name content) false
  let tools := Toolbox.names.map fun t => (t, Node.file (Image.ofTool t) true)
  dir
    [("bin", link "usr/bin"),
     ("dev", dir [("full", text ""), ("null", text ""), ("random", text ""), ("tty", text ""), ("urandom", text ""),
        ("zero", text ""), ("stdin", text ""), ("stdout", text ""), ("stderr", text ""), ("fd", Node.empty)]),
     ("etc", dir
       [("group", text "root:x:0:\n"), ("hostname", text "localhost\n"), ("hosts", text "127.0.0.1 localhost\n"),
        ("passwd", text "root:x:0:0:root:/root:/bin/bash\n"), ("shells", text "/bin/sh\n/bin/bash\n/bin/dash\n")]),
     ("home", Node.empty), ("lib", link "usr/lib"), ("lib64", link "usr/lib64"), ("media", Node.empty),
     ("mnt", Node.empty), ("opt", Node.empty), ("proc", Node.empty), ("root", Node.empty), ("run", Node.empty),
     ("sbin", link "usr/sbin"), ("srv", Node.empty), ("sys", Node.empty), ("tmp", Node.empty),
     ("usr", dir
       [("bin", dir tools), ("include", Node.empty), ("lib", Node.empty), ("lib64", Node.empty),
        ("local", dir [("bin", Node.empty), ("lib", Node.empty), ("sbin", Node.empty)]), ("sbin", Node.empty),
        ("share", Node.empty), ("src", Node.empty)]),
     ("var", dir [("cache", Node.empty), ("lib", Node.empty), ("log", Node.empty), ("tmp", Node.empty)])]

/-- where a machine has its tools -/
def standardPath : String := "/usr/local/sbin:/usr/local/bin:/usr/sbin:/usr/bin:/sbin:/bin"

end Benchwork.Shell
