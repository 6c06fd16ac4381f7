/-
A shell at work.

A shell is a process with arguments, variables, functions and the status of its last command. A running script can stop
what it does: by leaving its process, a loop or a function, or because of a fault. Some scripts work on a copy of the
state: `apart` keeps only what they did to the files and streams.

A script that runs in the background is kept as a job, and done when somebody waits for it.
-/
import Benchwork.Shell.Process
import Benchwork.Shell.Script
import Benchwork.Shell.Signal

namespace Benchwork.Shell

open Benchwork.Text

/-! ## Variables -/

inductive Value where
  | text (s : String)
  /-- places by number, in order -/
  | list (items : List (Nat × String))
  /-- places by name -/
  | table (items : List (String × String))
  deriving DecidableEq, Repr

structure Variable where
  /-- a variable can be known before it has a value -/
  value : Option Value := none
  isExported : Bool := false
  isFixed : Bool := false
  /-- every value is worked out as a sum -/
  isNumber : Bool := false
  /-- the value is the name of the variable that is meant -/
  isReference : Bool := false
  deriving DecidableEq, Repr

namespace Value

/-- the value as one text: of a list, its first place -/
def text? : Value → Option String
  | .text s => some s
  | .list items => (items.find? (·.1 = 0)).map (·.2)
  | .table items => (items.find? (·.1 = "0")).map (·.2)

/-- the numbered places of a value; a text has one -/
def items : Value → List (Nat × String)
  | .text s => [(0, s)]
  | .list items => items
  | .table _ => []

/-- the texts of all places -/
def texts : Value → List String
  | .table items => items.map (·.2)
  | v => v.items.map (·.2)

/-- the names of all places -/
def keys : Value → List String
  | .table items => items.map (·.1)
  | v => v.items.map fun e => toString e.1

/-- the text of one place -/
def place? (v : Value) (key : String) : Option String :=
  match v with
  | .table items => (items.find? (·.1 = key)).map (·.2)
  | v => (v.items.find? fun e => toString e.1 = key).map (·.2)

/-- the value with one numbered place set -/
def setPlace (i : Nat) (s : String) (v : Value) : Value :=
  let others := v.items.filter (·.1 ≠ i)
  .list (others.takeWhile (·.1 < i) ++ (i, s) :: others.dropWhile (·.1 < i))

/-- how many groups the names of a table are sorted into -/
def bucketCount : Nat := 1024

/-- the group of a name: the names of a table come in the order of their groups, and the newest of a group first -/
def bucket (key : String) : Nat :=
  let step := fun (h : UInt32) (b : UInt8) => h * 16777619 ^^^ b.toInt8.toInt32.toUInt32
  ((Octets.toBytes key).foldl step 2166136261).toNat % bucketCount

/-- the table with one place set -/
def setKey (key s : String) (items : List (String × String)) : List (String × String) :=
  if items.any (·.1 = key) then items.map fun e => if e.1 = key then (key, s) else e
  else
    let isBefore := fun (e : String × String) => decide (bucket e.1 < bucket key)
    items.takeWhile isBefore ++ (key, s) :: items.dropWhile isBefore

/-- the value without one place -/
def dropPlace (key : String) : Value → Value
  | .text s => .text s
  | .list items => .list (items.filter fun e => toString e.1 ≠ key)
  | .table items => .table (items.filter (·.1 ≠ key))

end Value

/-! ## State -/

/-- what belongs to a shell alone -/
structure Frame where
  dialect : Dialect
  name : String
  /-- the file that the shell was started with -/
  script : String := ""
  args : List String
  status : Nat := 0
  line : Nat := 1
  /-- the script was an argument of the shell -/
  isInline : Bool := false
  /-- the switches that are on, by their long names -/
  switches : List String := []
  bindings : List (String × Variable) := []
  functions : List (String × Script) := []
  /-- words that stand for other texts where a command begins -/
  aliases : List (String × String) := []
  /-- programs that were looked for before -/
  hashed : List String := []
  /-- what to do on a signal; zero is for the end -/
  traps : List (Nat × String) := []
  /-- a failure does not matter here -/
  excused : Bool := false
  /-- how many functions, sourced files and loops are being run -/
  functionDepth : Nat := 0
  sourceDepth : Nat := 0
  loopDepth : Nat := 0
  /-- the functions and the sourced files being run, the innermost first -/
  calls : List String := []
  sources : List String := []
  /-- how many copies deep this shell is -/
  copyDepth : Nat := 0
  /-- the statuses of the last pipe -/
  pipeStatus : List Nat := [0]
  /-- directories to come back to -/
  directories : List String := []
  /-- how deep a command that is shown stands in others -/
  traceDepth : Nat := 0
  /-- how far the script has been read -/
  lineRead : Nat := 1
  /-- for each function being run, the variables that it hides -/
  hidden : List (List (String × Option Variable)) := []
  /-- the process that the script was started as -/
  main : Nat := 0
  isCopy : Bool := false
  lastJob : Option Nat := none
  /-- the status that the shell is leaving with -/
  leaving : Option Nat := none
  /-- the status of the last script in a word, for a command that has nothing else -/
  outputStatus : Option Nat := none
  /-- what a shell's own command is called in its complaints -/
  speaker : Option String := none
  /-- the file that complaints name, if it is not the script itself -/
  speakerName : Option String := none
  /-- how far the reading of options is within an argument -/
  optionPlace : Nat := 0
  /-- which permissions new files do not get -/
  mask : Nat := 0o022

namespace Frame

/-- the variable under exactly this name -/
def own? (f : Frame) (name : String) : Option Variable := (f.bindings.find? (·.1 = name)).map (·.2)

/-- the name of the variable that is meant, over at most `links` references -/
def targetFrom (f : Frame) (links : Nat) (name : String) : String :=
  match links, f.own? name with
  | links + 1, some { value := some (.text target), isReference := true, .. } => f.targetFrom links target
  | _, _ => name

def target (f : Frame) (name : String) : String := f.targetFrom 8 name

/-- a list of texts by their places -/
def listOf (texts : List String) : Value := .list (texts.zipIdx.map fun (s, i) => (i, s))

/-- variables of the extended shell that show what it is doing -/
def living? (f : Frame) (name : String) : Option Value :=
  match f.dialect, name with
  | .extended, "PIPESTATUS" => some (listOf (f.pipeStatus.map toString))
  | .extended, "FUNCNAME" =>
    if f.calls.isEmpty then none else some (listOf (f.calls ++ (if f.isInline then [] else ["main"])))
  | .extended, "BASH_SOURCE" =>
    if f.isInline && f.sources.isEmpty && f.calls.isEmpty then none
    else
      let file := f.sources.headD (if f.isInline then "environment" else f.name)
      some (listOf (f.calls.map (fun _ => file) ++ f.sources ++ (if f.isInline then [] else [f.script])))
  | .extended, "BASH_SUBSHELL" => some (.text (toString f.copyDepth))
  | .extended, "DIRSTACK" => some (listOf f.directories)
  | _, _ => none

def lookup? (f : Frame) (name : String) : Option Variable :=
  match f.own? (f.target name) with
  | some v => some v
  | none => (f.living? name).map fun v => { value := some v }

/-- what a copy of the shell still does on signals: ignore some, and act on failures if it was asked to -/
def inheritedTraps (f : Frame) : List (Nat × String) :=
  f.traps.filter fun t => t.2 = "" || (t.1 = Signal.failure && f.switches.contains "errtrace")

/-- the letters of switches -/
def switchLetters : List (Char × String) :=
  [('e', "errexit"), ('f', "noglob"), ('I', "ignoreeof"), ('i', "interactive"), ('m', "monitor"), ('n', "noexec"),
   ('s', "stdin"), ('x', "xtrace"), ('v', "verbose"), ('V', "vi"), ('E', "emacs"), ('C', "noclobber"),
   ('a', "allexport"), ('b', "notify"), ('u', "nounset")]

/-- the letters of switches in the extended shell, in the order in which they are shown -/
def extendedLetters : List (Char × String) :=
  [('a', "allexport"), ('b', "notify"), ('e', "errexit"), ('f', "noglob"), ('h', "hashall"), ('i', "interactive"),
   ('k', "keyword"), ('m', "monitor"), ('n', "noexec"), ('p', "privileged"), ('t', "onecmd"), ('u', "nounset"),
   ('v', "verbose"), ('x', "xtrace"), ('B', "braceexpand"), ('C', "noclobber"), ('E', "errtrace"), ('H', "histexpand"),
   ('P', "physical"), ('T', "functrace")]

/-- the letters of the switches that are on -/
def flags (f : Frame) : String :=
  let letters := if f.dialect = .plain then switchLetters else extendedLetters
  let on := letters.filterMap fun (c, name) => if f.switches.contains name then some c else none
  let source := if f.dialect = .plain then [] else if f.isInline then ['c'] else if f.switches.contains "stdin" then ['s'] else []
  String.ofList (on ++ source)

/-- the switches that are on at first -/
def firstSwitches : Dialect → List String
  | .plain => []
  | .extended =>
    ["braceexpand", "hashall", "interactive-comments", "checkwinsize", "cmdhist", "complete_fullquote", "extquote",
     "force_fignore", "globasciiranges", "globskipdots", "hostcomplete", "interactive_comments", "patsub_replacement",
     "progcomp", "promptvars", "sourcepath"]

end Frame

/-- a script in the background -/
structure Job where
  pid : Nat
  script : Script
  frame : Frame
  process : Process
  ending : Option Ending := none

structure State where
  process : Process
  frame : Frame
  jobs : List Job := []

/-- the process without the signals to it alone for which the shell has a trap -/
def State.untrapped (s : State) : Process :=
  { s.process with
    strikes := s.process.strikes.filter fun k => k.receiver.isNone || s.frame.traps.all (·.1 ≠ k.signal) }

/-- the value of a parameter that is one text, if it has one -/
def State.parameter? (s : State) (name : String) : Option String :=
  let f := s.frame
  match name with
  | "#" => some (toString f.args.length)
  | "?" => some (toString f.status)
  | "$" => some (toString f.main)
  | "0" => some f.name
  | "!" => f.lastJob.map toString
  | "-" => some f.flags
  | _ =>
    match if name.all Char.isDigit then name.toNat? else none with
    | some n => f.args[n - 1]?
    | none =>
      match (f.lookup? name).bind (·.value), name, f.dialect with
      | some v, _, _ => v.text?
      | none, "LINENO", .extended => some (toString f.line)
      | none, "RANDOM", .extended => some (toString ((s.process.clock * 7919 + 12345) % 32768))
      | none, "SECONDS", .extended => some (toString (s.process.clock / 1000000))
      | none, "BASHPID", .extended => some (toString s.process.pid)
      | none, "EUID", .extended | none, "UID", .extended => some "0"
      | none, _, _ => (Arithmetic.cutPlace? name).bind fun (name, key) => ((f.lookup? name).bind (·.value)).bind (·.place? key)

/-- why a script does not go on -/
inductive Jump where
  | finish (e : Ending)
  /-- a fault, which ends the shell unless one of its commands expects it -/
  | fault (status : Nat)
  | leaveLoop (levels : Nat)
  | nextRound (levels : Nat)
  | back
  deriving DecidableEq, Repr

/-- a computation of a shell -/
abbrev Running := ExceptT Jump (StateM State)

namespace Running

def frame : Running Frame := do return (← get).frame

def process : Running Process := do return (← get).process

def modifyFrame (f : Frame → Frame) : Running Unit := modify fun s => { s with frame := f s.frame }

def modifyProcess (f : Process → Process) : Running Unit := modify fun s => { s with process := f s.process }

def setStatus (n : Nat) : Running Unit := modifyFrame fun f => { f with status := n }

def status : Running Nat := do return (← frame).status

def isPlain : Running Bool := do return (← frame).dialect = .plain

/-- a switch is on -/
def isOn (switch : String) : Running Bool := do return (← frame).switches.contains switch

def turn (switch : String) (on : Bool) : Running Unit := modifyFrame fun f =>
  { f with
    switches := if on then (if f.switches.contains switch then f.switches else f.switches ++ [switch])
      else f.switches.filter (· ≠ switch) }

def say (text : String) : Running Unit := modifyProcess (·.say text)

/-- where a complaint comes from -/
def origin : Running String := do
  let f ← frame
  let name := f.speakerName.getD f.name
  let place := if f.dialect = .plain then name ++ ": " ++ toString f.line else name ++ ": line " ++ toString f.line
  return place ++ ": " ++ (match f.speaker with
    | some name => name ++ ": "
    | none => "")

/-- prints a complaint -/
def complain (message : String) : Running Unit := do
  let text := (← origin) ++ message ++ "\n"
  modifyProcess (·.complain text)

/-- prints a complaint and gives up -/
def fail {α : Type} (message : String) : Running α := do
  complain message
  throw (.fault (if ← isPlain then 2 else 1))

/-! ## Variables -/

def lookup? (name : String) : Running (Option Variable) := do return (← frame).lookup? name

/-- sets the variable under exactly this name -/
def putVariable (name : String) (v : Variable) : Running Unit := modifyFrame fun f =>
  { f with
    hashed := if name = "PATH" then [] else f.hashed
    bindings := if f.bindings.any (·.1 = name) then f.bindings.map fun e => if e.1 = name then (name, v) else e
      else f.bindings ++ [(name, v)] }

def dropVariable (name : String) : Running Unit := modifyFrame fun f =>
  { f with bindings := f.bindings.filter (·.1 ≠ name) }

/-- refuses to change a variable that is fixed -/
def guardFixed (name : String) : Running Unit := do
  match ← lookup? name with
  | some v =>
    if v.isFixed then
      if ← isPlain then fail (name ++ ": is read only")
      else do
        complain (name ++ ": readonly variable")
        throw (.fault 1)
  | none => pure ()

def assignValue (name : String) (value : Value) : Running Unit := do
  guardFixed name
  let f ← frame
  let v := (f.own? (f.target name)).getD { isExported := ← isOn "allexport" }
  putVariable (f.target name) { v with value := some value }

/-- sets one place of a variable -/
def assignPlace (name key value : String) : Running Unit := do
  match (← lookup? name).bind (·.value) with
  | some (.table items) => assignValue name (.table (Value.setKey key value items))
  | v => assignValue name ((v.getD (.list [])).setPlace (key.toNat?.getD 0) value)

/-- sets a variable, or one place of it if the name says so -/
def assign (name value : String) : Running Unit := do
  match Arithmetic.cutPlace? name with
  | some (name, key) => assignPlace name key value
  | none =>
    match (← lookup? name).bind (·.value) with
    | some (.list _) | some (.table _) => assignPlace name "0" value
    | _ => assignValue name (.text value)

/-- the environment of the programs that a shell starts -/
def exported : Running Environment := do
  return (← frame).bindings.filterMap fun (name, v) =>
    match v.isExported, v.value with
    | true, some (.text s) => some (name, s)
    | _, _ => none

/-- the value of a parameter that is one text, if it has one -/
def parameter? (name : String) : Running (Option String) := do return (← get).parameter? name

/-! ## Ends -/

/-- how a computation ends, jump or not -/
def outcome {α : Type} (body : Running α) : Running (Except Jump α) :=
  tryCatch (do return .ok (← body)) fun j => return .error j

/-- does something at the end of a computation, jump or not -/
def ensuring {α : Type} (after : Running Unit) (body : Running α) : Running α := do
  let r ← outcome body
  after
  match r with
  | .ok a => return a
  | .error j => throw j

/-- runs with a failure excused -/
def excusing {α : Type} (body : Running α) : Running α := do
  let before := (← frame).excused
  modifyFrame ({ · with excused := true })
  ensuring (modifyFrame ({ · with excused := before })) body

/-- runs and puts the streams back -/
def keepingStreams {α : Type} (body : Running α) : Running α := do
  let numbers := (← process).numbers
  ensuring (modifyProcess ({ · with numbers })) body

/-- runs under the name of a command of the shell itself -/
def speaking {α : Type} (name : Option String) (body : Running α) : Running α := do
  let before := (← frame).speaker
  modifyFrame ({ · with speaker := name })
  ensuring (modifyFrame ({ · with speaker := before })) body

/-! ## Loops -/

/-- one round of a loop; says whether another one may follow -/
def round (body : Running Unit) : Running Bool := do
  let depth := (← frame).loopDepth
  modifyFrame ({ · with loopDepth := depth + 1 })
  let r ← outcome body
  modifyFrame ({ · with loopDepth := depth })
  match r with
  | .ok () => return true
  | .error (.leaveLoop n) => if n ≤ 1 then return false else throw (.leaveLoop (n - 1))
  | .error (.nextRound n) => if n ≤ 1 then return true else throw (.nextRound (n - 1))
  | .error j => throw j

/-- round after round, each with the status of the one before, until one leaves the loop -/
def rounds (limit : Nat) (last : Nat) (step : Nat → Running Unit) : Running Unit :=
  match limit with
  | 0 => throw (.finish (.signal 9))
  | limit + 1 => do
    if ← round (step last) then rounds limit (← status) step

/-- a round for each value -/
def roundEach (values : List String) (step : String → Running Unit) : Running Unit :=
  match values with
  | [] => pure ()
  | v :: rest => do
    if ← round (step v) then roundEach rest step

/-! ## Copies -/

/-- the end that a computation comes to -/
def endingOf (result : Except Jump Unit) (f : Frame) : Ending :=
  match result with
  | .error (.finish e) => e
  | .error (.fault status) => .ofCode status
  | _ => .ofCode f.status

/-- runs on a copy of the state as a process of its own: only files and streams stay changed -/
def apart (body : Running Unit) : Running Ending := do
  let s ← get
  let f := s.frame
  let copy : State :=
    { process := { s.untrapped.child s.process.environment with ignored := s.process.ignored }
      frame := { f with isCopy := true, copyDepth := f.copyDepth + 1, loopDepth := 0, traps := f.inheritedTraps } }
  let (result, s') := body.run copy
  set { s with process := s.process.after s'.process }
  return endingOf result s'.frame

end Running

end Benchwork.Shell
