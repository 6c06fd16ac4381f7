/-
Commands that leave: the shell, a function, or a loop.
-/
import Benchwork.Number.Whole
import Benchwork.Shell.OwnCommand.Basic

namespace Benchwork.Shell.OwnCommand

open Benchwork.Text

/-- a number of a command; the plain shell takes no sign -/
def plainNumber? (s : String) : Option Nat :=
  match Number.digits? s.toList with
  | some n => if n ≤ 2147483647 then some n else none
  | none => none

def exit (args : List String) : Running Nat := do
  let f ← Running.frame
  match args with
  | [] => throw (.finish (.ofCode (f.leaving.getD f.status)))
  | code :: more =>
    if ← Running.isPlain then
      match plainNumber? code with
      | some n => throw (.finish (.ofCode n))
      | none => Running.fail ("Illegal number: " ++ code)
    else
      match Number.signedWhole? code.toList with
      | none => do
        Running.complain (code ++ ": numeric argument required")
        throw (.finish (.exit 2))
      | some n =>
        if !more.isEmpty then do
          Running.complain "too many arguments"
          throw (.finish (.exit 1))
        else throw (.finish (.ofCode (n % 256).toNat))

def back (args : List String) : Running Nat := do
  let f ← Running.frame
  let inside := f.functionDepth > 0 || f.sourceDepth > 0
  let leave := fun (n : Nat) => do
    Running.setStatus n
    throw .back
  match f.dialect, args with
  | .plain, [] => leave f.status
  | .plain, code :: _ =>
    match plainNumber? code with
    | some n => leave n
    | none => Running.fail ("Illegal number: " ++ code)
  | .extended, args => do
    let code ← match args with
      | [] => pure (some (f.status : Int))
      | code :: _ =>
        match Number.signedWhole? code.toList with
        | some n => pure (some n)
        | none => do
          Running.complain (code ++ ": numeric argument required")
          pure none
    if !inside then do
      Running.complain ("can only " ++ tick ++ "return' from a function or sourced script")
      return 2
    else
      match code with
      | some n => leave (n % 256).toNat
      | none => leave 2

/-- leaves loops, or goes on with their next round -/
def leaveLoop (jump : Nat → Jump) (args : List String) : Running Nat := do
  let f ← Running.frame
  let go := fun (n : Nat) =>
    if f.loopDepth = 0 then pure 0 else throw (jump (min n f.loopDepth))
  match args with
  | [] =>
    if f.loopDepth = 0 && f.dialect = .extended then do
      Running.complain ("only meaningful in a " ++ tick ++ "for', " ++ tick ++ "while', or " ++ tick ++ "until' loop")
      return 0
    else go 1
  | count :: _ =>
    match f.dialect, Number.signedWhole? count.toList with
    | .plain, some n => if 0 < n && !count.startsWith "+" then go n.toNat else Running.fail ("Illegal number: " ++ count)
    | .plain, none => Running.fail ("Illegal number: " ++ count)
    | .extended, some n =>
      if f.loopDepth = 0 then do
        Running.complain ("only meaningful in a " ++ tick ++ "for', " ++ tick ++ "while', or " ++ tick ++ "until' loop")
        return 0
      else if 0 < n then go n.toNat
      else do
        Running.complain (count ++ ": loop count out of range")
        Running.setStatus 1
        throw (.leaveLoop f.loopDepth)
    | .extended, none => do
      Running.complain (count ++ ": numeric argument required")
      throw (.finish (.exit 128))

end Benchwork.Shell.OwnCommand
