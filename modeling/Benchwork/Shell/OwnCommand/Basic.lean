/-
What the commands of a shell have in common.

Both kinds of shell share most commands but not the words of their complaints. A fault in the plain shell gives up the
command, and the shell too if the command is a special one; in the extended shell it is a status.
-/
import Benchwork.Shell.Expansion

namespace Benchwork.Shell.OwnCommand

open Benchwork.Text

/-- complains in the words of the shell: the plain one gives up, the extended one goes on with a status -/
def refuse (plain extended : String) (status : Nat) : Running Nat := do
  if ← Running.isPlain then Running.fail plain
  else do
    Running.complain extended
    return status

/-- a backquote, which opens the quotes of some complaints -/
def tick : String := String.ofList [Char.ofNat 96]

def isName (s : String) : Bool :=
  match s.toList with
  | c :: rest => Arithmetic.isNameStart c && rest.all Arithmetic.isNameChar
  | [] => false

/-- a name and the value after an equals sign -/
def cutSetting (a : String) : String × Option String :=
  match a.toList.dropWhile (· ≠ '=') with
  | _ :: value => (String.ofList (a.toList.takeWhile (· ≠ '=')), some (String.ofList value))
  | [] => (a, none)

/-- sorted by name -/
def sortedVariables : Running (List (String × Variable)) := do
  return (← Running.frame).bindings.mergeSort fun a b => decide (a.1 ≤ b.1)

end Benchwork.Shell.OwnCommand
