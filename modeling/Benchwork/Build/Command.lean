/-
Commands: a program with its arguments, where to run it and what to set in its environment.

A command is built up step by step. Setting a variable takes away an earlier setting of the same one and adds the new
one at the end, so no variable is set twice.
-/
import Benchwork.Files.Path
import Benchwork.Text.Blank

namespace Benchwork.Build

open Benchwork.Text

structure Command where
  program : String
  args : List String := []
  cwd : Option Path := none
  env : List (String × String) := []
  deriving DecidableEq, Repr

namespace Command

/-- the words of a line: a program and its arguments -/
def ofLine (line : String) : Command :=
  match words line with
  | [] => { program := "" }
  | program :: args => { program, args }

/-- one more argument -/
def arg (c : Command) (a : String) : Command := { c with args := c.args ++ [a] }

/-- to be run in the directory `dir` -/
def inDir (c : Command) (dir : Path) : Command := { c with cwd := some dir }

/-- with a variable set, whatever it was before -/
def withEnv (c : Command) (key value : String) : Command :=
  { c with env := c.env.filter (·.1 ≠ key) ++ [(key, value)] }

/-- what a variable is set to -/
def envValue? (c : Command) (key : String) : Option String := (c.env.find? (·.1 = key)).map (·.2)

/-- program and arguments with one space between them -/
def line (c : Command) : String := " ".intercalate (c.program :: c.args)

end Command

end Benchwork.Build
