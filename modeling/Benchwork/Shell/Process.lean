/-
Processes: what a running program can see and change.

A process has the files with its current directory, its environment and its open streams, which it knows by numbers.
Several numbers, and several processes, can share a stream. A stream goes to one of the two streams of the whole machine,
to a file or nowhere, gathers what is written for somebody else, or holds what there is to read. A process ends by itself
with a code below 256, or by a signal. Time passes only where a program waits.

All texts that a process deals with are byte strings.
-/
import Benchwork.Files.Store
import Benchwork.Text.Octets

namespace Benchwork.Shell

open Benchwork.Text

/-- how a process ended -/
inductive Ending where
  | exit (code : Nat)
  | signal (number : Nat)
  deriving DecidableEq, Repr

namespace Ending

/-- the end of a process that gives `n` back; a code has eight bits -/
def ofCode (n : Nat) : Ending := .exit (n % 256)

/-- what a script sees of the end of a process -/
def status : Ending → Nat
  | .exit code => code
  | .signal number => 128 + number

end Ending

/-! ## Environments -/

abbrev Environment := List (String × String)

namespace Environment

def get? (env : Environment) (key : String) : Option String := (env.find? (·.1 = key)).map (·.2)

/-- sets a variable; a new one goes to the end -/
def set (env : Environment) (key value : String) : Environment :=
  if env.any (·.1 = key) then env.map fun e => if e.1 = key then (key, value) else e else env ++ [(key, value)]

/-- sets variables one after the other -/
def setAll (env more : Environment) : Environment := more.foldl (fun env e => env.set e.1 e.2) env

def unset (env : Environment) (key : String) : Environment := env.filter (·.1 ≠ key)

/-- the environment as a new process sees it: every entry is one text, whose name ends at the first equals sign -/
def received (env : Environment) : Environment :=
  env.map fun (key, value) =>
    let text := (key ++ "=" ++ value).toList
    (String.ofList (text.takeWhile (· ≠ '=')), String.ofList ((text.dropWhile (· ≠ '=')).drop 1))

end Environment

/-! ## Streams -/

inductive Stream where
  | output
  | errors
  | nowhere
  | file (path : Path)
  /-- what is left to be read -/
  | source (rest : List UInt8)
  /-- what was written for somebody else -/
  | gathered (bytes : List UInt8)
  /-- a directory, which can be opened but not read -/
  | directory
  deriving DecidableEq, Repr

/-- a signal that will come: when, which, and to one process alone or to all -/
structure Strike where
  time : Nat
  signal : Nat
  receiver : Option Nat := none
  deriving DecidableEq, Repr

namespace Strike

/-- strikes in the order of time -/
def ordered (strikes : List Strike) : List Strike := strikes.mergeSort fun a b => decide (a.time ≤ b.time)

/-- the strike is meant for a process -/
def reaches (s : Strike) (pid : Nat) : Bool := s.receiver.all (· = pid)

end Strike

structure Process where
  files : FileStore
  environment : Environment
  /-- the number of this process, of the one that started it, and the one that the next process gets -/
  pid : Nat := 100
  parent : Nat := 1
  next : Nat := 101
  streams : Array Stream := #[.source [], .output, .errors]
  /-- which stream a number stands for -/
  numbers : List (Nat × Nat) := [(0, 0), (1, 1), (2, 2)]
  /-- what the machine has printed -/
  printed : List UInt8 := []
  complaints : List UInt8 := []
  /-- signals that this process does not hear -/
  ignored : List Nat := []
  /-- signals that were sent and not yet heard: to which process, and which -/
  pending : List (Nat × Nat) := []
  /-- time in millionths of a second -/
  clock : Nat := 0
  /-- the signals that will come, in the order of time -/
  strikes : List Strike := []

namespace Process

/-- the place of the stream that a number stands for -/
def slot? (p : Process) (number : Nat) : Option Nat := (p.numbers.find? (·.1 = number)).map (·.2)

def stream? (p : Process) (number : Nat) : Option Stream := (p.slot? number).bind fun i => p.streams[i]?

/-- makes a number stand for a stream -/
def point (p : Process) (number slot : Nat) : Process :=
  { p with numbers := (number, slot) :: p.numbers.filter (·.1 ≠ number) }

/-- makes a number stand for a new stream -/
def attach (p : Process) (number : Nat) (s : Stream) : Process :=
  { p with streams := p.streams.push s }.point number p.streams.size

def close (p : Process) (number : Nat) : Process := { p with numbers := p.numbers.filter (·.1 ≠ number) }

/-- writes bytes on the stream of a number -/
def emit (p : Process) (number : Nat) (bytes : List UInt8) : Process :=
  match p.slot? number with
  | none => p
  | some i =>
    match p.streams[i]? with
    | some .output => { p with printed := p.printed ++ bytes }
    | some .errors => { p with complaints := p.complaints ++ bytes }
    | some (.file path) => { p with files := (p.files.append path bytes).toOption.getD p.files }
    | some (.gathered before) => { p with streams := p.streams.setIfInBounds i (.gathered (before ++ bytes)) }
    | _ => p

/-- prints a text on the standard output -/
def say (p : Process) (s : String) : Process := p.emit 1 (Octets.toBytes s)

/-- prints a text on the standard error stream -/
def complain (p : Process) (s : String) : Process := p.emit 2 (Octets.toBytes s)

/-- what is left to be read on the stream of a number -/
def available (p : Process) (number : Nat) : List UInt8 :=
  match p.stream? number with
  | some (.source rest) => rest
  | _ => []

/-- leaves only `rest` to be read on the stream of a number -/
def leave (p : Process) (number : Nat) (rest : List UInt8) : Process :=
  match p.slot? number with
  | some i =>
    match p.streams[i]? with
    | some (.source _) => { p with streams := p.streams.setIfInBounds i (.source rest) }
    | _ => p
  | none => p

/-- reads everything from the standard input -/
def readInput (p : Process) : List UInt8 × Process := (p.available 0, p.leave 0 [])

/-- the path of a file name -/
def pathOf (name : String) : Path := ⟨Octets.toBytes name⟩

/-- the name of a path -/
def nameOf (p : Path) : String := Octets.ofBytes p.bytes

/-- a path as seen from anywhere -/
def fullPath (p : Process) (name : String) : Path := p.files.cwdPath.join (pathOf name)

/-- moves to a directory -/
def enter (p : Process) (dir : Path) : Except Fault Process :=
  match p.files.lookup .target dir with
  | .ok (.found loc (.dir _)) => .ok { p with files := { p.files with cwd := loc } }
  | .ok (.found _ _) => .error .notDirectory
  | .ok (.vacant _ _) => .error .notFound
  | .error e => .error e

/-- the number that a name of an open stream stands for -/
def device? (name : String) : Option Nat :=
  match name with
  | "/dev/stdin" => some 0
  | "/dev/stdout" => some 1
  | "/dev/stderr" => some 2
  | _ => if name.startsWith "/dev/fd/" then (String.ofList (name.toList.drop 8)).toNat? else none

/-- the first bytes of a device that never ends -/
def endless? (name : String) (count : Nat) : Option (List UInt8) :=
  match name with
  | "/dev/zero" => some (List.replicate count 0)
  | "/dev/urandom" | "/dev/random" => some ((List.range count).map fun i => ((i * 167 + i / 7 * 59 + 41) % 251).toUInt8)
  | _ => none

/-- how much of a device without an end is read at most -/
def endlessSize : Nat := 1048576

/-- the content of a file, or of an open stream under the name of a device -/
def readFile (p : Process) (name : String) : Except Fault (List UInt8) :=
  if name = "/dev/null" then .ok []
  else
    match device? name, endless? name endlessSize with
    | some n, _ => .ok (p.available n)
    | none, some bytes => .ok bytes
    | none, none => p.files.read (pathOf name)

/-- the stream of a file opened for reading -/
def openRead (p : Process) (name : String) : Except Fault Stream :=
  if name = "/dev/null" then .ok (.source [])
  else
    match endless? name endlessSize, p.files.node .target (pathOf name) with
    | some bytes, _ => .ok (.source bytes)
    | none, .ok (.file content _) => .ok (.source content)
    | none, .ok (.dir _) => .ok .directory
    | none, .ok (.link _) => .error .notFound
    | none, .error e => .error e

/-- the stream of a file opened for writing, and the files -/
def openWrite (p : Process) (append : Bool) (name : String) : Except Fault (Stream × FileStore) :=
  if name = "/dev/null" then .ok (.nowhere, p.files)
  else
    match if append then p.files.touch (pathOf name) else p.files.write (pathOf name) [] with
    | .ok files => .ok (.file (p.fullPath name), files)
    | .error e => .error e

/-- a new process started by `p`; it ends with the one that waits for it -/
def child (p : Process) (environment : Environment) : Process :=
  { p with
    environment, pid := p.next, parent := p.pid, next := p.next + 1
    strikes := p.strikes.map fun s => if s.receiver = some p.pid then { s with receiver := some p.next } else s }

/-- `p` after its child `q` is done: files, streams and time are shared, all else is its own -/
def after (p q : Process) : Process :=
  { p with
    files := { q.files with cwd := p.files.cwd }, next := q.next, streams := q.streams
    printed := q.printed, complaints := q.complaints, pending := q.pending, clock := q.clock }

/-- the process hears a signal -/
def hears (p : Process) (signal : Nat) : Bool := signal = 9 || !p.ignored.contains signal

/-- lets time pass up to `stop`; gives the signal that came before that, if one was heard -/
def passUntil (stop : Nat) (p : Process) (strikes : List Strike) : Option Nat × Process :=
  match strikes with
  | [] => (none, { p with clock := max p.clock stop, strikes := [] })
  | s :: rest =>
    if stop < s.time then (none, { p with clock := max p.clock stop, strikes })
    else if s.reaches p.pid && p.hears s.signal then
      (some s.signal, { p with clock := max p.clock s.time, strikes := rest })
    else passUntil stop p rest

/-- lets time pass -/
def pass (p : Process) (duration : Nat) : Option Nat × Process := passUntil (p.clock + duration) p p.strikes

end Process

end Benchwork.Shell
