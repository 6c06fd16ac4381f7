/-
Signals by name and number.
-/

namespace Benchwork.Shell.Signal

def table : List (String × Nat) :=
  [("HUP", 1), ("INT", 2), ("QUIT", 3), ("ILL", 4), ("TRAP", 5), ("ABRT", 6), ("BUS", 7), ("FPE", 8), ("KILL", 9),
   ("USR1", 10), ("SEGV", 11), ("USR2", 12), ("PIPE", 13), ("ALRM", 14), ("TERM", 15), ("STKFLT", 16), ("CHLD", 17),
   ("CONT", 18), ("STOP", 19), ("TSTP", 20), ("TTIN", 21), ("TTOU", 22), ("URG", 23), ("XCPU", 24), ("XFSZ", 25),
   ("VTALRM", 26), ("PROF", 27), ("WINCH", 28), ("IO", 29), ("PWR", 30), ("SYS", 31)]

/-- numbers beyond all signals, for what a shell does before each command, after a failure, and after a function -/
def everyCommand : Nat := 65

def failure : Nat := 66

def leavingFunction : Nat := 67

/-- the number of a signal: a number, or a name in any case with or without `SIG` -/
def number? (s : String) : Option Nat :=
  match s.toNat? with
  | some n => if n ≤ 64 then some n else none
  | none =>
    let name := s.toUpper
    if name = "EXIT" then some 0
    else (table.find? fun e => e.1 = name || "SIG" ++ e.1 = name).map (·.2)

def name (n : Nat) : String :=
  if n = 0 then "EXIT" else ((table.find? (·.2 = n)).map (·.1)).getD (toString n)

/-- does not end a process that does not expect it -/
def isHarmless (n : Nat) : Bool := [0, 17, 18, 23, 28].contains n

/-- cannot be caught -/
def isFinal (n : Nat) : Bool := n = 9 || n = 19

/-- what a shell says about a program that was ended by a signal -/
def obituary (n : Nat) : String :=
  match n with
  | 1 => "Hangup"
  | 2 => "Interrupt"
  | 3 => "Quit"
  | 4 => "Illegal instruction"
  | 5 => "Trace/breakpoint trap"
  | 6 => "Aborted"
  | 7 => "Bus error"
  | 8 => "Floating point exception"
  | 9 => "Killed"
  | 10 => "User defined signal 1"
  | 11 => "Segmentation fault"
  | 12 => "User defined signal 2"
  | 13 => "Broken pipe"
  | 14 => "Alarm clock"
  | 15 => "Terminated"
  | 16 => "Stack fault"
  | 24 => "CPU time limit exceeded"
  | 25 => "File size limit exceeded"
  | 26 => "Virtual timer expired"
  | 27 => "Profiling timer expired"
  | 29 => "I/O possible"
  | 30 => "Power failure"
  | 31 => "Bad system call"
  | _ => if 34 ≤ n then "Real-time signal " ++ toString (n - 34) else "Signal " ++ toString n

end Benchwork.Shell.Signal
