/-
Commands for the current directory.

A shell remembers by which name it came to its directory, so that two dots lead back over a link.
-/
import Benchwork.Shell.Image
import Benchwork.Shell.OwnCommand.Basic

namespace Benchwork.Shell.OwnCommand

open Benchwork.Text

/-- a path without single and double dots -/
def tidy (path : String) : String :=
  let names := (path.toList.splitOn '/').foldl (fun (acc : List (List Char)) n =>
    if n = [] || n = ['.'] then acc else if n = ['.', '.'] then acc.tail else n :: acc) []
  "/" ++ "/".intercalate (names.reverse.map String.ofList)

/-- the name of the current directory as the shell came to it -/
def currentName : Running String := do
  let p ← Running.process
  let physical := Process.nameOf p.files.cwdPath
  match (← Running.lookup? "PWD").bind (·.value) with
  | some (.text s) =>
    let isHere := match p.files.lookup .target (Process.pathOf s) with
      | .ok (.found loc _) => loc = p.files.cwd
      | _ => false
    return if s.startsWith "/" && isHere then s else physical
  | _ => return physical

def setExported (name value : String) : Running Unit := do
  let v := (← Running.lookup? name).getD {}
  Running.putVariable name { v with value := some (.text value), isExported := true }

def changeDirectory (args : List String) : Running Nat := do
  let f ← Running.frame
  let physical := args.any (· = "-P")
  let args := args.dropWhile fun a => a = "-P" || a = "-L" || a = "-e" || a = "-LP" || a = "--"
  let text := fun (name : String) => (((f.lookup? name).bind (·.value)).bind Value.text?)
  if f.dialect = .extended && args.length > 1 then
    Running.complain "too many arguments"
    return 1
  let target ← match args with
    | [] =>
      match text "HOME" with
      | some home => pure (some (home, false))
      | none =>
        if f.dialect = .plain then pure (some ("", false))
        else do
          Running.complain "HOME not set"
          pure none
    | "-" :: _ =>
      match text "OLDPWD" with
      | some old => pure (some (old, true))
      | none =>
        if f.dialect = .plain then pure (some ("", true))
        else do
          Running.complain "OLDPWD not set"
          pure none
    | dir :: _ => pure (some (dir, false))
  match target with
  | none => return 1
  | some (dir, shown) =>
    let here ← currentName
    let searched := if dir.startsWith "/" || dir.startsWith "./" || dir.startsWith "../" || dir = "." || dir = ".." then []
      else (Image.directories ((text "CDPATH").getD "")).filter (· ≠ "")
    let p ← Running.process
    let found := (searched.map fun base => base ++ "/" ++ dir).find? fun d => p.files.isDir (Process.pathOf d)
    let shown := shown || found.isSome
    let dir := found.getD dir
    let logical := tidy (if dir.startsWith "/" then dir else here ++ "/" ++ dir)
    if dir = "" then do
      if f.dialect = .plain then setExported "OLDPWD" here
      return 0
    match p.enter (Process.pathOf dir) with
    | .error e =>
      refuse ("can't cd to " ++ dir) (dir ++ ": " ++ e.description) 1
    | .ok q => do
      let isSame := match p.files.lookup .target (Process.pathOf logical) with
        | .ok (.found loc _) => loc = q.files.cwd
        | _ => false
      let q := if isSame || physical then q else
        match p.enter (Process.pathOf logical) with
        | .ok r => r
        | .error _ => q
      Running.modifyProcess fun _ => q
      let new := if physical then Process.nameOf q.files.cwdPath else logical
      setExported "OLDPWD" here
      setExported "PWD" new
      if shown then Running.say (new ++ "\n")
      return 0

def printDirectory (args : List String) : Running Nat := do
  let p ← Running.process
  let name ← if args.contains "-P" then pure (Process.nameOf p.files.cwdPath) else currentName
  Running.say (name ++ "\n")
  return 0

/-! ## Directories to come back to -/

/-- prints the current directory and those to come back to -/
def showDirectories (args : List String) : Running Nat := do
  let f ← Running.frame
  let home := (((f.lookup? "HOME").bind (·.value)).bind Value.text?).getD ""
  let short := fun (d : String) =>
    if home ≠ "" && home ≠ "/" && (d = home || d.startsWith (home ++ "/")) then
      "~" ++ String.ofList (d.toList.drop home.length)
    else d
  match args with
  | "-c" :: _ => do
    Running.modifyFrame ({ · with directories := [] })
    return 0
  | _ => do
    let all := (← currentName) :: f.directories
    let shown := if args.contains "-l" then all else all.map short
    Running.say ((if args.contains "-p" then "\n" else " ").intercalate shown ++ "\n")
    return 0

def pushDirectory (args : List String) : Running Nat := do
  let here ← currentName
  let f ← Running.frame
  let put := fun (dir : String) (left : List String) => do
    let code ← changeDirectory [dir]
    if code = 0 then
      Running.modifyFrame ({ · with directories := here :: left })
      showDirectories []
    else return 1
  match args, f.directories with
  | [], [] => do
    Running.complain "no other directory"
    return 1
  | [], top :: rest => put top rest
  | dir :: _, all => put dir all

def popDirectory (_ : List String) : Running Nat := do
  match (← Running.frame).directories with
  | [] => do
    Running.complain "directory stack empty"
    return 1
  | top :: rest => do
    let code ← changeDirectory [top]
    if code = 0 then
      Running.modifyFrame ({ · with directories := rest })
      showDirectories []
    else return 1

end Benchwork.Shell.OwnCommand
