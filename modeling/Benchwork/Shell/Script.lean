/-
Shell scripts.

A word is a list of parts: plain text, the value of a parameter, the output of a script, or a sum. A part in quotes is
never cut into several words. A script is a simple command, which has assignments, words and redirections, or is put
together from smaller scripts. Commands know the line that they stand on, because complaints name it.
-/
import Benchwork.Shell.Arithmetic
import Benchwork.Shell.Pattern

namespace Benchwork.Shell

/-- how a file is opened -/
inductive OpenMode where
  | read
  | write
  | append
  /-- for reading and writing -/
  | both
  deriving DecidableEq, Repr

/-- how an arm of a choice ends: done, on to the next body, or on to the next test -/
inductive ArmEnd where
  | done
  | nextBody
  | nextTest
  deriving DecidableEq, Repr

mutual

/-- a piece of a word; `quoted` parts are never cut -/
inductive Part where
  | text (chars : List Char) (quoted : Bool)
  /-- a parameter, perhaps one place of a list, and what is made of its value -/
  | parameter (name : String) (index : Option (List Part)) (use : Use) (quoted : Bool)
  /-- what a script prints -/
  | output (script : Script) (quoted : Bool)
  /-- the name of a stream with what a script prints -/
  | stream (script : Script)
  | sum (expression : List Part) (quoted : Bool)
  /-- a list given to a command that declares names: it stands for the name -/
  | declared (setting : Assignment)

/-- what is made of the value of a parameter; `orEmpty` says that an empty value is as good as none -/
inductive Use where
  | value
  | length
  | fallback (orEmpty : Bool) (word : List Part)
  | assign (orEmpty : Bool) (word : List Part)
  | complain (orEmpty : Bool) (word : List Part)
  | instead (orEmpty : Bool) (word : List Part)
  | cutStart (longest : Bool) (pattern : List Part)
  | cutEnd (longest : Bool) (pattern : List Part)
  | replace (place : Pattern.Place) (pattern new : List Part)
  | slice (start : List Part) (size : Option (List Part))
  | recase (upper all : Bool)
  /-- the value as a text of the given kind: in quotes, or in other letters -/
  | shown (kind : Char)
  /-- the value names the parameter that is meant -/
  | indirect
  /-- the names of all variables that begin so -/
  | names (joined : Bool)
  /-- the numbers of the places of a list -/
  | places
  /-- something that no shell knows -/
  | unknown (source : List Char)

inductive Redirection where
  | file (stream : Nat) (mode : OpenMode) (target : List Part)
  /-- overwrites a file even if that is forbidden -/
  | force (stream : Nat) (target : List Part)
  /-- the stream goes where another one goes, or is closed -/
  | copy (stream : Nat) (target : List Part)
  /-- reads a text that stands in the script -/
  | document (stream : Nat) (body : List Part)
  /-- both output streams go to a file -/
  | outputs (append : Bool) (target : List Part)

inductive Assignment where
  | text (name : String) (index : Option (List Part)) (append : Bool) (value : List Part)
  /-- a list of values, each perhaps for a place of its own -/
  | list (name : String) (append : Bool) (values : List (Option (List Part) × List Part))

/-- a condition in double brackets -/
inductive Judgement where
  | word (w : List Part)
  | unary (op : String) (w : List Part)
  | binary (a : List Part) (op : String) (b : List Part)
  | negate (j : Judgement)
  | both (a b : Judgement)
  | either (a b : Judgement)

inductive Arm where
  | mk (patterns : List (List Part)) (body : Script) (ending : ArmEnd)

inductive Script where
  | skip
  | simple (line : Nat) (assignments : List Assignment) (words : List (List Part)) (redirections : List Redirection)
  | seq (first second : Script)
  /-- the second only if the first succeeds -/
  | both (first second : Script)
  /-- the second only if the first fails -/
  | either (first second : Script)
  | negate (body : Script)
  /-- each one prints what the next one reads -/
  | pipe (stages : List Script)
  | background (body : Script)
  | branch (condition yes no : Script)
  /-- runs the body as long as the condition succeeds, or fails if `negated` -/
  | loop (negated : Bool) (condition body : Script)
  /-- runs the body for each value, or for each argument of the script -/
  | each (line : Nat) (name : String) (values : Option (List (List Part))) (body : Script)
  /-- starts with a sum and works out another one after each round, as long as the condition is not zero -/
  | count (start condition step : List Part) (body : Script)
  /-- runs the body for values that are chosen from a menu -/
  | select (line : Nat) (name : String) (values : Option (List (List Part))) (body : Script)
  | choose (line : Nat) (subject : List Part) (arms : List Arm)
  | define (name : String) (body : Script)
  /-- a script with redirections of its own -/
  | redirect (line : Nat) (body : Script) (redirections : List Redirection)
  /-- a script that keeps its state to itself -/
  | separate (line : Nat) (body : Script)
  | judge (line : Nat) (condition : Judgement)
  /-- succeeds if a sum is not zero -/
  | calculate (line : Nat) (expression : List Part)

end

abbrev Word := List Part

instance : Inhabited Script := ⟨.skip⟩

/-- the name that an assignment sets -/
def assignedName : Assignment → String
  | .text name _ _ _ | .list name _ _ => name

/-- the text of a word that has neither quotes nor parameters -/
def bareText? : Word → Option String
  | [.text s false] => some (String.ofList s)
  | _ => none

end Benchwork.Shell
