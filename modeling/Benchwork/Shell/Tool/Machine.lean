/-
Tools that tell about the machine, and tools that wait or do nothing.
-/
import Benchwork.Shell.Format
import Benchwork.Shell.Condition
import Benchwork.Shell.Tool.Basic

namespace Benchwork.Shell.Tool

open Benchwork.Text Tooling

/-! ## Texts -/

/-- the options of `echo` at the front: whether a line end follows, whether backslashes count, and the other arguments -/
def echoOptions (letters : String) (newline escapes : Bool) : List String → Bool × Bool × List String
  | [] => (newline, escapes, [])
  | a :: rest =>
    let cs := a.toList
    if cs.head? = some '-' && cs.length > 1 && (cs.drop 1).all (fun c => letters.contains c) then
      let newline := newline && !cs.contains 'n'
      let last := (cs.drop 1).reverse.find? fun c => c = 'e' || c = 'E'
      let escapes := match last with
        | some 'e' => true
        | some _ => false
        | none => escapes
      echoOptions letters newline escapes rest
    else (newline, escapes, a :: rest)

/-- what `echo` prints -/
def echoText (manner : Format.Manner) (newline escapes : Bool) (args : List String) : String :=
  let text := " ".intercalate args
  if escapes then
    let (cs, ended) := Format.unescapeAll manner text.length text.toList
    String.ofList cs ++ (if newline && !ended then "\n" else "")
  else text ++ (if newline then "\n" else "")

def echo (args : List String) : Tooling Nat := do
  let (newline, escapes, rest) := echoOptions "neE" true false args
  say (echoText .tool newline escapes rest)
  return 0

def printf (args : List String) : Tooling Nat := do
  let args := if args.head? = some "--" then args.tail else args
  match args with
  | [] => misuse 1 "missing operand"
  | form :: rest => do
    let w := Format.print .tool form rest
    for message in w.complaints do
      complain message
    say (String.ofList w.text)
    if w.args.length = rest.length && !rest.isEmpty && !w.stopped then
      complain ("warning: ignoring excess arguments, starting with " ++ literal (rest.headD ""))
    return w.status

def test (args : List String) : Tooling Nat := do
  match Condition.extended (← get) {} args with
  | .ok b => return if b then 0 else 1
  | .error message => do
    complain message
    return 2

def bracket (args : List String) : Tooling Nat := do
  if args.getLast? = some "]" then test args.dropLast
  else do
    complain "missing ']'"
    return 2

/-! ## Waiting -/

/-- a duration in millionths of a second -/
def duration? (s : String) : Option Nat :=
  let (text, unit) := match s.toList.reverse with
    | 's' :: rest => (rest.reverse, 1)
    | 'm' :: rest => (rest.reverse, 60)
    | 'h' :: rest => (rest.reverse, 3600)
    | 'd' :: rest => (rest.reverse, 86400)
    | _ => (s.toList, 1)
  let whole := text.takeWhile Char.isDigit
  let places := match text.dropWhile Char.isDigit with
    | [] => some []
    | '.' :: rest => if rest.all Char.isDigit then some rest else none
    | _ => none
  match places with
  | none => if String.ofList text = "infinity" || String.ofList text = "inf" then some 1000000000000000 else none
  | some ps =>
    if whole.isEmpty && ps.isEmpty then none
    else
      let micros := Number.digitsValue (whole ++ (ps ++ List.replicate 6 '0').take 6)
      some (micros * unit)

def sleep (args : List String) : Tooling Nat := do
  let c ← choices 1 [] args
  needOperand c "missing operand"
  let mut total := 0
  let mut good := true
  for a in c.operands do
    match duration? a with
    | some n => total := total + n
    | none => do
      complain ("invalid time interval " ++ literal a)
      good := false
  if !good then
    let name ← read
    modify (·.complain ("Try '" ++ name ++ " --help' for more information.\n"))
    quit 1
  let (signal, p) := (← get).pass total
  set p
  match signal with
  | some n => throw (.signal n)
  | none => return 0

/-! ## The machine -/

def uname (args : List String) : Tooling Nat := do
  let c ← choices 1
    [⟨"a", ["all"], false⟩, ⟨"s", ["kernel-name"], false⟩, ⟨"n", ["nodename"], false⟩, ⟨"r", ["kernel-release"], false⟩,
     ⟨"v", ["kernel-version"], false⟩, ⟨"m", ["machine"], false⟩, ⟨"p", ["processor"], false⟩,
     ⟨"i", ["hardware-platform"], false⟩, ⟨"o", ["operating-system"], false⟩] args
  let facts := [("s", "Linux"), ("n", "localhost"), ("r", "6.1.0"), ("v", "#1 SMP"), ("m", "x86_64"), ("p", "unknown"),
    ("i", "unknown"), ("o", "GNU/Linux")]
  let wanted := if c.given.isEmpty then ["s"] else (c.given.map (·.1))
  let shown := facts.filter fun f => (c.has "a" && f.2 ≠ "unknown") || wanted.contains f.1
  say (" ".intercalate (shown.map (·.2)) ++ "\n")
  return 0

def whoami (args : List String) : Tooling Nat := do
  let _ ← choices 1 [] args
  say "root\n"
  return 0

def userId (args : List String) : Tooling Nat := do
  let c ← choices 1 (plainSwitches "ugGnraz") args
  match c.operands with
  | user :: _ =>
    if user ≠ "root" then do
      complain (literal user ++ ": no such user")
      quit 1
  | [] => pure ()
  if c.has "u" || c.has "g" || c.has "G" then say (if c.has "n" then "root\n" else "0\n")
  else say "uid=0(root) gid=0(root) groups=0(root)\n"
  return 0

def fixed (text : String) (args : List String) : Tooling Nat := do
  let _ := args
  say text
  return 0

def tty (_ : List String) : Tooling Nat := do
  say "not a tty\n"
  return 1

def printenv (args : List String) : Tooling Nat := do
  let env := (← get).environment
  if args.isEmpty then do
    say (String.join (env.map fun e => e.1 ++ "=" ++ e.2 ++ "\n"))
    return 0
  else
    onEach args fun name => do
      match env.get? name with
      | some v => do
        say (v ++ "\n")
        return true
      | none => return false

/-- the date, which never changes -/
def date (args : List String) : Tooling Nat := do
  let c ← choices 1
    [⟨"u", ["utc"], false⟩, ⟨"d", ["date"], true⟩, ⟨"r", ["reference"], true⟩, ⟨"R", [], false⟩, ⟨"I", [], false⟩] args
  let seconds := 1700000000 + (← get).clock / 1000000
  let pieces := [("%s", toString seconds), ("%Y", "2023"), ("%m", "11"), ("%d", "14"), ("%H", "22"), ("%M", "13"),
    ("%S", "20"), ("%F", "2023-11-14"), ("%T", "22:13:20"), ("%N", "000000000"), ("%j", "318"), ("%y", "23")]
  match c.operands.find? (·.startsWith "+") with
  | some form =>
    let text := pieces.foldl (fun (t : String) e => t.replace e.1 e.2) (String.ofList (form.toList.drop 1))
    say (text ++ "\n")
  | none => say "Tue Nov 14 22:13:20 UTC 2023\n"
  return 0

end Benchwork.Shell.Tool
