/-
What the name of a command stands for.

A keyword comes first, then a function, a command of the shell itself, and a file along the search path.
-/
import Benchwork.Shell.Image
import Benchwork.Shell.OwnCommand.Basic

namespace Benchwork.Shell.OwnCommand

open Benchwork.Text

def keywords : List String :=
  ["!", "case", "do", "done", "elif", "else", "esac", "fi", "for", "if", "in", "then", "until", "while", "\x7b", "\x7d"]

def plainNames : List String :=
  [".", ":", "[", "alias", "bg", "break", "cd", "command", "continue", "echo", "eval", "exec", "exit", "export", "false",
   "fg", "getopts", "hash", "jobs", "kill", "local", "printf", "pwd", "read", "readonly", "return", "set", "shift", "test",
   "times", "trap", "true", "type", "ulimit", "umask", "unalias", "unset", "wait"]

def extendedNames : List String :=
  plainNames ++ ["builtin", "caller", "compgen", "declare", "dirs", "disown", "enable", "help", "history", "let", "logout",
    "mapfile", "popd", "pushd", "readarray", "shopt", "source", "suspend", "typeset"]

def names : Dialect → List String
  | .plain => plainNames
  | .extended => extendedNames

/-- commands after whose faults the plain shell cannot go on -/
def isSpecial (name : String) : Bool :=
  [".", ":", "break", "continue", "eval", "exec", "exit", "export", "local", "readonly", "return", "set", "shift", "times",
   "trap", "unset"].contains name

/-! ## Aliases -/

/-- gives words another meaning, or shows the one that they have -/
def setAliases (args : List String) : Running Nat := do
  let f ← Running.frame
  let word := if f.dialect = .plain then "" else "alias "
  let display := fun (e : String × String) => Running.say (word ++ e.1 ++ "=" ++ Expansion.inQuotes e.2 ++ "\n")
  let mut code := 0
  if args.isEmpty then
    for e in f.aliases.mergeSort fun a b => decide (a.1 ≤ b.1) do
      display e
  for a in args.filter (· ≠ "-p") do
    let (name, value) := cutSetting a
    match value with
    | some text =>
      Running.modifyFrame fun f => { f with aliases := f.aliases.filter (·.1 ≠ name) ++ [(name, text)] }
    | none =>
      match (← Running.frame).aliases.find? (·.1 = name) with
      | some e => display e
      | none => do
        if f.dialect = .plain then Running.modifyProcess (·.complain ("alias: " ++ name ++ " not found\n"))
        else Running.complain (name ++ ": not found")
        code := 1
  return code

def dropAliases (args : List String) : Running Nat := do
  let mut code := 0
  for a in args do
    let f ← Running.frame
    if a = "-a" then Running.modifyFrame ({ · with aliases := [] })
    else if f.aliases.any (·.1 = a) then
      Running.modifyFrame fun f => { f with aliases := f.aliases.filter (·.1 ≠ a) }
    else do
      if f.dialect = .plain then Running.modifyProcess (·.complain ("unalias: " ++ a ++ " not found\n"))
      else Running.complain (a ++ ": not found")
      code := 1
  return code

/-! ## Meanings -/

/-- what a command name stands for -/
inductive Meaning where
  | keyword
  | alias (text : String)
  | function
  | own
  | file (path : String)
  | unknown

def meaningOf (s : State) (name : String) : Meaning :=
  let path := (s.parameter? "PATH").getD Image.defaultPath
  if keywords.contains name || (s.frame.dialect = .extended && ["[[", "]]", "function", "time", "select"].contains name) then
    .keyword
  else if (s.frame.dialect = .plain || s.frame.switches.contains "expand_aliases") && s.frame.aliases.any (·.1 = name) then
    .alias (((s.frame.aliases.find? (·.1 = name)).map (·.2)).getD "")
  else if s.frame.functions.any (·.1 = name) then .function
  else if (names s.frame.dialect).contains name then .own
  else if s.frame.dialect = .plain && name.contains '/' then
    if s.process.files.pathExists (Process.pathOf name) then .file name else .unknown
  else
    match Image.whereIs s.process.files path name with
    | some file => .file file
    | none => .unknown

/-- remembers that a program was looked for; says whether it was known before -/
def remember (name : String) : Running Bool := do
  let known := (← Running.frame).hashed.contains name
  if !known && !name.contains '/' then Running.modifyFrame fun f => { f with hashed := name :: f.hashed }
  return known

/-- says what names stand for, in full -/
def describe (args : List String) : Running Nat := do
  let mut code := 0
  let plain ← Running.isPlain
  let short := !plain && args.head? = some "-t"
  let pathOnly := !plain && (args.head? = some "-p" || args.head? = some "-P")
  let args := if plain then args else args.filter fun a => !a.startsWith "-"
  for a in args do
    let s ← get
    match meaningOf s a with
    | .alias text =>
      Running.say (if short then "alias\n" else
        a ++ (if plain then " is an alias for " ++ text else " is aliased to " ++ tick ++ text ++ "'") ++ "\n")
    | .keyword => Running.say (if short then "keyword\n" else a ++ " is a shell keyword\n")
    | .function =>
      Running.say (if short then "function\n" else a ++ (if plain then " is a shell function\n" else " is a function\n"))
    | .own =>
      Running.say (if short then "builtin\n" else
        a ++ (if plain && isSpecial a then " is a special shell builtin\n" else " is a shell builtin\n"))
    | .file path => do
      let known ← remember a
      Running.say (if short then "file\n" else if pathOnly then path ++ "\n" else
        a ++ (if known then (if plain then " is a tracked alias for " ++ path else " is hashed (" ++ path ++ ")")
          else " is " ++ path) ++ "\n")
    | .unknown => do
      if plain then Running.say (a ++ ": not found\n")
      else if !short then Running.complain (a ++ ": not found")
      code := if plain then 127 else 1
  return code

/-- says what a name stands for, in short -/
def locate (args : List String) : Running Nat := do
  let plain ← Running.isPlain
  let mut code := if plain then 127 else 1
  for a in (if plain then args.take 1 else args) do
    let s ← get
    match meaningOf s a with
    | .alias text => do
      Running.say ("alias " ++ a ++ "=" ++ Expansion.inQuotes text ++ "\n")
      code := 0
    | .keyword | .function | .own => do
      Running.say (a ++ "\n")
      code := 0
    | .file path => do
      let _ ← remember a
      Running.say (path ++ "\n")
      code := 0
    | .unknown => pure ()
  return code

def hash (args : List String) : Running Nat := do
  let mut code := 0
  let f ← Running.frame
  if args = ["-r"] then Running.modifyFrame ({ · with hashed := [] })
  else if args.isEmpty && f.dialect = .extended && f.hashed.isEmpty then Running.say "hash: hash table empty\n"
  let asks := args.head? = some "-t" && f.dialect = .extended
  for a in args.filter fun a => !a.startsWith "-" do
    let s ← get
    match if asks && !f.hashed.contains a then .unknown else meaningOf s a with
    | .unknown => do
      Running.complain (a ++ ": not found")
      code := 1
    | .file _ => do
      let _ ← remember a
    | _ => pure ()
  return code

end Benchwork.Shell.OwnCommand
