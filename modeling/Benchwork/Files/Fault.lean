/-
Why an operation on files can fail.

One constructor for each cause, and one function with the wording.
-/

namespace Benchwork

/-- a failure reported by the system -/
inductive Fault where
  | notFound
  | badExecutable
  | denied
  | exists
  | notDirectory
  | isDirectory
  | invalid
  | nameTooLong
  | notEmpty
  | tooManyLinks
  | nulInPath
  | nulInArgument
  | notText
  | noParent
  deriving DecidableEq, Repr

namespace Fault

/-- the number by which the system names the failure, for those it names -/
def number? : Fault → Option Nat
  | .notFound => some 2
  | .badExecutable => some 8
  | .denied => some 13
  | .exists => some 17
  | .notDirectory => some 20
  | .isDirectory => some 21
  | .invalid => some 22
  | .nameTooLong => some 36
  | .notEmpty => some 39
  | .tooManyLinks => some 40
  | .nulInPath | .nulInArgument | .notText | .noParent => none

def description : Fault → String
  | .notFound => "No such file or directory"
  | .badExecutable => "Exec format error"
  | .denied => "Permission denied"
  | .exists => "File exists"
  | .notDirectory => "Not a directory"
  | .isDirectory => "Is a directory"
  | .invalid => "Invalid argument"
  | .nameTooLong => "File name too long"
  | .notEmpty => "Directory not empty"
  | .tooManyLinks => "Too many levels of symbolic links"
  | .nulInPath => "file name contained an unexpected NUL byte"
  | .nulInArgument => "nul byte found in provided data"
  | .notText => "stream did not contain valid UTF-8"
  | .noParent => "failed to create whole tree"

/-- the text shown for a failure -/
def message (f : Fault) : String :=
  match f.number? with
  | some n => s!"{f.description} (os error {n})"
  | none => f.description

end Fault

end Benchwork
