/-
Tools at work.

A tool is called by a name, which stands in its complaints, and with arguments. It works on its process and can end at any
point. Options stand anywhere among the arguments, as letters or as long names of which the start is enough; a tool that
starts another program stops looking for them at its name.
-/
import Benchwork.Shell.Process

namespace Benchwork.Shell

open Benchwork.Text

/-- a computation of a tool -/
abbrev Tooling := ReaderT String (ExceptT Ending (StateM Process))

namespace Tooling

/-- runs a tool under a name -/
def start (tool : Tooling Nat) (name : String) (p : Process) : Ending × Process :=
  let (result, p') := ((tool name).run).run p
  match result with
  | .ok code => (.ofCode code, p')
  | .error e => (e, p')

/-- ends at once -/
def quit {α : Type} (code : Nat) : Tooling α := throw (.ofCode code)

def say (text : String) : Tooling Unit := modify (·.say text)

def write (bytes : List UInt8) : Tooling Unit := modify (·.emit 1 bytes)

/-- prints a complaint -/
def complain (message : String) : Tooling Unit := do
  let name ← read
  modify (·.complain (name ++ ": " ++ message ++ "\n"))

/-- a complaint about how the tool was called -/
def misuse {α : Type} (code : Nat) (message : String) : Tooling α := do
  complain message
  let name ← read
  modify (·.complain ("Try '" ++ name ++ " --help' for more information.\n"))
  quit code

/-- a byte that is not printed as it is: a backslash and a letter, or three octal digits -/
def escapedByte (c : Char) : List Char :=
  let octal := fun (n : Nat) => Char.ofNat (n % 8 + 48)
  match c with
  | '\t' => ['\\', 't']
  | '\n' => ['\\', 'n']
  | '\r' => ['\\', 'r']
  | '\x07' => ['\\', 'a']
  | '\x08' => ['\\', 'b']
  | '\x0b' => ['\\', 'v']
  | '\x0c' => ['\\', 'f']
  | c => ['\\', octal (c.toNat / 64), octal (c.toNat / 8), octal c.toNat]

def isPlainByte (c : Char) : Bool := ' ' ≤ c && c ≤ '~'

/-- the inside of a name in single quotes as a script would write it; `escaping` inside of a part with escapes -/
def quotedInside (escaping : Bool) : List Char → List Char
  | [] => []
  | c :: rest =>
    if !isPlainByte c then (if escaping then [] else "'$'".toList) ++ escapedByte c ++ quotedInside true rest
    else if c = '\'' then "'\\''".toList ++ quotedInside false rest
    else (if escaping then "''".toList else []) ++ c :: quotedInside false rest

/-- a file name in a complaint, as a script would write it -/
def quoted (s : String) : String :=
  let cs := s.toList
  let isCalm := fun (c : Char) => c.isAlphanum || " '%+,-./:]_\x7b\x7d".contains c
  if cs.contains '\'' && cs.all isCalm then "\"" ++ s ++ "\""
  else "'" ++ String.ofList (quotedInside false cs) ++ "'"

/-- a file name in a complaint, with quotes only if a script would need them -/
def nameShown (s : String) : String :=
  let cs := s.toList
  let isSpecial := fun (c : Char) => !isPlainByte c || " !\"$&'()*;<=>?[\\^|".contains c || c = Char.ofNat 96
  let begins := cs.head?.any fun c => c = '#' || c = '~'
  let alone := cs = ['\x7b'] || cs = ['\x7d']
  if cs.isEmpty || cs.any isSpecial || begins || alone then quoted s else s

/-- an argument in a complaint: single quotes, and escapes inside of them -/
def literal (s : String) : String :=
  "'" ++ String.ofList (s.toList.flatMap fun c =>
    if c = '\'' || c = '\\' then ['\\', c] else if isPlainByte c then [c] else escapedByte c) ++ "'"

/-- carries out a change of the files, and gives the fault if there was one -/
def change (f : FileStore → Except Fault FileStore) : Tooling (Option Fault) := do
  let p ← get
  match f p.files with
  | .ok files => do
    set { p with files }
    return none
  | .error e => return some e

/-- works on each argument; one that fails does not stop the others -/
def onEach (args : List String) (work : String → Tooling Bool) : Tooling Nat := do
  let mut code := 0
  for a in args do
    if !(← work a) then code := 1
  return code

end Tooling

/-! ## Options -/

/-- an option: its letter, or a word if it has none, its long names, and whether an argument belongs to it -/
structure Switch where
  key : String
  long : List String := []
  takes : Bool := false

/-- the options that were given, in order, and the other arguments -/
structure Choices where
  given : List (String × String) := []
  operands : List String := []

namespace Choices

def has (c : Choices) (key : String) : Bool := c.given.any (·.1 = key)

/-- the argument of the last option of a kind -/
def value? (c : Choices) (key : String) : Option String := (c.given.reverse.find? (·.1 = key)).map (·.2)

def addGiven (key value : String) (c : Choices) : Choices := { c with given := (key, value) :: c.given }

def addOperand (a : String) (c : Choices) : Choices := { c with operands := a :: c.operands }

/-- the option that a long name or its start stands for -/
def longSwitch? (switches : List Switch) (name : String) : Option Switch :=
  match switches.find? fun s => s.long.contains name with
  | some s => some s
  | none =>
    match switches.filter fun s => s.long.any (·.startsWith name) with
    | [s] => some s
    | _ => none

/-- the letters of one argument; the last one may take the rest of it, or the next argument -/
def letters (switches : List Switch) (cs : List Char) (next : List String) :
    Except String (List (String × String) × List String) :=
  match cs with
  | [] => .ok ([], next)
  | c :: rest =>
    match switches.find? (·.key = String.ofList [c]) with
    | none => .error ("invalid option -- '" ++ String.ofList [c] ++ "'")
    | some s =>
      if s.takes then
        match rest, next with
        | [], [] => .error ("option requires an argument -- '" ++ String.ofList [c] ++ "'")
        | [], a :: more => .ok ([(s.key, a)], more)
        | _, _ => .ok ([(s.key, String.ofList rest)], next)
      else do
        let (more, left) ← letters switches rest next
        return ((s.key, "") :: more, left)

/-- reads arguments; `early` stops at the first one that is no option -/
def parseFrom (switches : List Switch) (early : Bool) (fuel : Nat) (args : List String) : Except String Choices :=
  match fuel, args with
  | 0, _ | _, [] => .ok {}
  | fuel + 1, a :: rest =>
    if a = "--" then .ok { operands := rest }
    else if a.startsWith "--" then
      let text := a.toList.drop 2
      let name := String.ofList (text.takeWhile (· ≠ '='))
      let value := text.dropWhile (· ≠ '=')
      match longSwitch? switches name with
      | none => .error ("unrecognized option '" ++ a ++ "'")
      | some s =>
        if !s.takes then
          if value.isEmpty then (parseFrom switches early fuel rest).map (addGiven s.key "")
          else .error ("option '--" ++ s.long.headD "" ++ "' doesn't allow an argument")
        else
          match value, rest with
          | _ :: v, _ => (parseFrom switches early fuel rest).map (addGiven s.key (String.ofList v))
          | [], v :: more => (parseFrom switches early fuel more).map (addGiven s.key v)
          | [], [] => .error ("option '--" ++ s.long.headD "" ++ "' requires an argument")
    else if a.startsWith "-" && a ≠ "-" then do
      let (given, left) ← letters switches (a.toList.drop 1) rest
      let more ← parseFrom switches early fuel left
      return { more with given := given ++ more.given }
    else if early then .ok { operands := args }
    else (parseFrom switches early fuel rest).map (addOperand a)

def parse (switches : List Switch) (args : List String) : Except String Choices :=
  parseFrom switches false (args.length + 1) args

/-- options before the name of a program -/
def parseEarly (switches : List Switch) (args : List String) : Except String Choices :=
  parseFrom switches true (args.length + 1) args

end Choices

namespace Tooling

/-- letters without arguments as options -/
def plainSwitches (letters : String) : List Switch := letters.toList.map fun c => { key := String.ofList [c] }

/-- the options and other arguments of a tool; a wrong option ends it with a code -/
def choices (code : Nat) (switches : List Switch) (args : List String) : Tooling Choices := do
  match Choices.parse switches args with
  | .ok c => return c
  | .error message => misuse code message

/-- refuses a call without arguments -/
def needOperand (c : Choices) (message : String) : Tooling Unit := do
  if c.operands.isEmpty then misuse 1 message

/-- the bytes of a file, or of the input for a dash -/
def input (name : String) : Tooling (Except Fault (List UInt8)) := do
  let p ← get
  if name = "-" || name = "/dev/stdin" then
    match p.stream? 0 with
    | some .directory => return .error .isDirectory
    | _ => do
      let (bytes, p) := p.readInput
      set p
      return .ok bytes
  else return p.readFile name

/-- the texts of files, in order, or of the input if there are none; `onFault` complains about those that cannot be
read. The flag says that all could be -/
def inputs (names : List String) (onFault : String → Fault → Tooling Unit) : Tooling (List (String × List Char) × Bool) := do
  let mut all : List (String × List Char) := []
  let mut good := true
  for name in (if names.isEmpty then ["-"] else names) do
    match ← input name with
    | .ok bytes => all := all ++ [(name, (Octets.ofBytes bytes).toList)]
    | .error e => do
      onFault name e
      good := false
  return (all, good)

/-- the usual complaint about a file -/
def nameFault (name : String) (e : Fault) : Tooling Unit := complain (nameShown name ++ ": " ++ e.description)

/-- the complaint about a file by tools that show names as they are -/
def plainFault (name : String) (e : Fault) : Tooling Unit := complain (name ++ ": " ++ e.description)

/-- the complaint about a file that was to be opened for reading -/
def openFault (verb : String) (name : String) (e : Fault) : Tooling Unit :=
  if e = .isDirectory then complain ("error reading " ++ quoted name ++ ": " ++ e.description)
  else complain (verb ++ " " ++ quoted name ++ " for reading: " ++ e.description)

end Tooling

/-- the pieces of a text that end with a mark; a last piece without an end counts too -/
def piecesOf (mark : Char) (cs : List Char) : List (List Char) :=
  let pieces := cs.splitOn mark
  if pieces.getLast? = some [] then pieces.dropLast else pieces

/-- the lines of a text, without their ends -/
def linesOf (cs : List Char) : List (List Char) := piecesOf '\n' cs

/-- the pieces of a text with the marks that end them -/
def endedBy (mark : Char) (cs : List Char) : List (List Char) :=
  let pieces := cs.splitOn mark
  let ended := pieces.dropLast.map (· ++ [mark])
  match pieces.getLast? with
  | some (c :: rest) => ended ++ [c :: rest]
  | _ => ended

/-- the lines of a text with their ends -/
def linesWithEnds (cs : List Char) : List (List Char) := endedBy '\n' cs

/-- groups of at most `n`, one after the other -/
def inGroups {α : Type} (n fuel : Nat) (items : List α) : List (List α) :=
  match fuel with
  | 0 => []
  | fuel + 1 => if items.isEmpty then [] else items.take n :: inGroups n fuel (items.drop n)

/-- lines as one text, each with an end -/
def unlines (lines : List (List Char)) : String := String.ofList (lines.flatMap (· ++ ['\n']))

end Benchwork.Shell
