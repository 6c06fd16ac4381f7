/-
Tools that show the file tree, and names in it.

Listings are in the order of bytes. A name is taken apart at its slashes, of which those at the end do not count.
-/
import Benchwork.Shell.Format
import Benchwork.Shell.Tool.Tree

namespace Benchwork.Shell.Tool

open Benchwork.Text Tooling

/-! ## Names -/

def pwd (args : List String) : Tooling Nat := do
  let _ ← choices 1 [⟨"L", ["logical"], false⟩, ⟨"P", ["physical"], false⟩] args
  say (Process.nameOf (← get).files.cwdPath ++ "\n")
  return 0

def basename (args : List String) : Tooling Nat := do
  let c ← match Choices.parseEarly
      [⟨"a", ["multiple"], false⟩, ⟨"s", ["suffix"], true⟩, ⟨"z", ["zero"], false⟩] args with
    | .ok c => pure c
    | .error message => misuse 1 message
  needOperand c "missing operand"
  let strip := fun (suffix name : String) =>
    if suffix ≠ "" && name.endsWith suffix && name ≠ suffix then
      String.ofList (name.toList.take (name.length - suffix.length))
    else name
  if c.has "a" || c.has "s" then do
    for name in c.operands do
      say (strip ((c.value? "s").getD "") (lastName name) ++ "\n")
    return 0
  else
    match c.operands with
    | name :: suffix :: x :: _ =>
      let _ := (name, suffix)
      misuse 1 ("extra operand " ++ literal x)
    | name :: rest => do
      say (strip (rest.headD "") (lastName name) ++ "\n")
      return 0
    | [] => return 1

/-- a path without its last name -/
def parentName (name : String) : String :=
  let kept := (withoutSlashes name).toList.reverse.dropWhile (· ≠ '/')
  if (withoutSlashes name) = "/" then "/"
  else if kept.isEmpty then "."
  else withoutSlashes (String.ofList kept.reverse)

def dirname (args : List String) : Tooling Nat := do
  let c ← match Choices.parseEarly [⟨"z", ["zero"], false⟩] args with
    | .ok c => pure c
    | .error message => misuse 1 message
  needOperand c "missing operand"
  for name in c.operands do
    say (parentName name ++ "\n")
  return 0

/-! ## Listings -/

/-- the mark after a name in a listing -/
def nameMark (c : Choices) (x : Option Node) : String :=
  match x with
  | some (.dir _) => if c.has "F" || c.has "p" then "/" else ""
  | some (.link _) => if c.has "F" then "@" else ""
  | some (.file _ true) => if c.has "F" then "*" else ""
  | _ => ""

/-- one line of a long listing, without times -/
def longLine (name : String) (x : Option Node) : String :=
  match x with
  | some (.dir _) => "drwxr-xr-x 2 root root 4096 Jan  1 00:00 " ++ name
  | some (.link target) => "lrwxrwxrwx 1 root root " ++ toString target.bytes.length ++ " Jan  1 00:00 " ++ name ++
      " -> " ++ Process.nameOf target
  | some (.file content executable) =>
    (if executable then "-rwxr-xr-x" else "-rw-r--r--") ++ " 1 root root " ++ toString content.length ++
      " Jan  1 00:00 " ++ name
  | none => name

/-- the text of a listing -/
def listing (c : Choices) (entries : List (String × Option Node)) : String :=
  let entries := if c.has "r" then entries.reverse else entries
  String.join (entries.map fun (name, x) =>
    (if c.has "l" then longLine (name ++ nameMark c x) x else name ++ nameMark c x) ++ "\n")

/-- the entries of a directory that are shown -/
def shownEntries (c : Choices) (es : List (Name × Node)) : List (String × Option Node) :=
  let named := es.map fun e => (Octets.ofBytes e.1, some e.2)
  let visible := if c.has "a" || c.has "A" then named else named.filter fun e => !e.1.startsWith "."
  (if c.has "a" then [(".", some Node.empty), ("..", some Node.empty)] else []) ++ visible

/-- lists a directory, and those in it if asked -/
def listTree (c : Choices) (fuel : Nat) (titled : Bool) (name : String) (es : List (Name × Node)) : List String :=
  match fuel with
  | 0 => []
  | fuel + 1 =>
    let own := (if titled then name ++ ":\n" else "") ++ (if c.has "l" then "total 0\n" else "") ++
      listing c (shownEntries c es)
    let below := if !c.has "R" then [] else
      (shownEntries { c with given := c.given.filter (·.1 ≠ "a") } es).flatMap fun (n, x) =>
        match x with
        | some (.dir inner) => listTree c fuel true (inside name n) inner
        | _ => []
    own :: below

def ls (args : List String) : Tooling Nat := do
  let c ← choices 2
    (plainSwitches "aA1dlRFprtSUhnogcsiLHkmxCqQbBuvXZNfw" ++ [⟨"color", ["color"], false⟩]) (args.filter fun a => !a.startsWith "--color")
  let names := if c.operands.isEmpty then ["."] else c.operands.mergeSort fun a b => decide (a ≤ b)
  let mut code := 0
  let mut files : List (String × Option Node) := []
  let mut dirs : List (String × List (Name × Node)) := []
  for name in names do
    match ← nodeOf .target name, ← nodeOf .itself name with
    | .ok (.dir es), _ =>
      if c.has "d" then files := files ++ [(name, some Node.empty)] else dirs := dirs ++ [(name, es)]
    | _, .ok x => files := files ++ [(name, some x)]
    | _, .error e => do
      complain ("cannot access " ++ quoted name ++ ": " ++ e.description)
      code := 2
  let titled := c.operands.length > 1 || c.has "R"
  let sections := (if files.isEmpty then [] else [listing c files]) ++
    dirs.flatMap fun (name, es) => listTree c 100 titled name es
  say ("\n".intercalate sections)
  return code

/-- the size that is shown of a node -/
def shownSize : Node → Nat
  | .file content _ => content.length
  | .dir _ => 4096
  | .link target => target.bytes.length

/-- the mark of a kind of file and its rights, as letters -/
def rightsOf : Node → String
  | .file _ true => "-rwxr-xr-x"
  | .file _ false => "-rw-r--r--"
  | .dir _ => "drwxr-xr-x"
  | .link _ => "lrwxrwxrwx"

/-- a property of a file by its letter -/
def statField (name : String) (x : Node) (c : Char) : String :=
  match c with
  | 'n' => name
  | 'N' =>
    match x with
    | .link target => quoted name ++ " -> " ++ quoted (Process.nameOf target)
    | _ => quoted name
  | 's' => toString (shownSize x)
  | 'F' => kindOf x
  | 'A' => rightsOf x
  | 'a' =>
    match x with
    | .file _ false => "644"
    | .link _ => "777"
    | _ => "755"
  | 'f' =>
    match x with
    | .file _ true => "81ed"
    | .file _ false => "81a4"
    | .dir _ => "41ed"
    | .link _ => "a1ff"
  | 'h' => "1"
  | 'U' | 'G' => "root"
  | _ => "0"

/-- the properties of a file that a form asks for; a width may stand before the letter -/
def statText (fuel : Nat) (form : List Char) (name : String) (x : Node) : List Char :=
  match fuel, form with
  | 0, _ | _, [] => []
  | fuel + 1, '%' :: '%' :: rest => '%' :: statText fuel rest name x
  | fuel + 1, '%' :: rest =>
    let isFlag := fun (c : Char) => "-+ #0".contains c
    let flags := rest.takeWhile isFlag
    let digits := (rest.dropWhile isFlag).takeWhile Char.isDigit
    match (rest.dropWhile isFlag).dropWhile Char.isDigit with
    | c :: after =>
      let text := (statField name x c).toList
      let space := Number.digitsValue digits - text.length
      let filler := if flags.contains '0' && text.all Char.isDigit then '0' else ' '
      let shown := if flags.contains '-' then text ++ List.replicate space ' ' else List.replicate space filler ++ text
      shown ++ statText fuel after name x
    | [] => ['%']
  | fuel + 1, c :: rest => c :: statText fuel rest name x

def stat (args : List String) : Tooling Nat := do
  let c ← choices 1
    [⟨"c", ["format"], true⟩, ⟨"printf", ["printf"], true⟩, ⟨"L", ["dereference"], false⟩, ⟨"f", [], false⟩,
     ⟨"t", ["terse"], false⟩] args
  needOperand c "missing operand"
  onEach c.operands fun name => do
    match ← nodeOf (if c.has "L" then .target else .itself) name with
    | .ok x => do
      let text := fun (form : List Char) => statText (form.length + 1) form name x
      match c.value? "printf" with
      | some form => say (String.ofList (text (Format.unescapeAll .tool form.length form.toList).1))
      | none => say (String.ofList (text ((c.value? "c").getD "%n").toList) ++ "\n")
      return true
    | .error e => do
      complain ("cannot statx " ++ quoted name ++ ": " ++ e.description)
      return false

end Benchwork.Shell.Tool
