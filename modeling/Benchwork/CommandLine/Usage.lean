/-
Reading the arguments of a command.

A grammar has options, which are known by a letter or a word or both, and perhaps a place for arguments that are no
options. Arguments are read from left to right and the first mistake decides. The value of an option stands in the same
argument or in the next one; an option of many values takes every following argument that does not look like an option.
Values are handed over when an option is complete, that is when the next one starts or the arguments end. After `--` no
argument is an option.
-/

namespace Benchwork.CommandLine

/-- why a command line is not carried out: a mistake in it, or a question to the program itself -/
inductive UsageError where
  | missingCommand
  | unknownCommand
  | unknownArgument
  | help
  | version
  | missingValue
  | badValue
  | unneededValue
  | repeated
  deriving DecidableEq, Repr

/-- how many values an option takes -/
inductive Arity where
  | none
  | one
  | many
  deriving DecidableEq, Repr

structure Flag (κ : Type) where
  key : κ
  short : Option Char := none
  long : Option String := none
  arity : Arity := .none
  /-- may be given again, adding to what was given -/
  repeats : Bool := false
  deriving Repr

/-- the options of a command, the place for other arguments, and what completed values do to the result -/
structure Grammar (κ α : Type) where
  flags : List (Flag κ)
  other : Option (Flag κ)
  take : κ → List String → α → Except UsageError α

/-- how far the reader is -/
structure Reading (κ α : Type) where
  result : α
  /-- options that are complete -/
  seen : List κ := []
  /-- the option begun last with its values, until the next one starts -/
  pending : Option (Flag κ × List String) := none
  /-- the pending option takes the next argument -/
  hungry : Bool := false
  /-- `--` was read -/
  literal : Bool := false

namespace Grammar

variable {κ α : Type} [DecidableEq κ]

/-- hands over the values of an option -/
def complete (g : Grammar κ α) (r : Reading κ α) (f : Flag κ) (values : List String) :
    Except UsageError (Reading κ α) :=
  if f.arity ≠ .none ∧ values = [] then .error .missingValue
  else if !f.repeats ∧ f.key ∈ r.seen then .error .repeated
  else (g.take f.key values r.result).map fun result => { r with result, seen := f.key :: r.seen }

/-- completes the option begun last -/
def settle (g : Grammar κ α) (r : Reading κ α) : Except UsageError (Reading κ α) :=
  match r.pending with
  | none => .ok { r with hungry := false }
  | some (f, values) => g.complete { r with pending := none, hungry := false } f values

/-- starts an option, with its value if that stands in the same argument -/
def start (g : Grammar κ α) (r : Reading κ α) (f : Flag κ) (value : Option String) :
    Except UsageError (Reading κ α) := do
  match f.arity, value with
  | .none, some _ => .error .unneededValue
  | .none, none => g.complete (← g.settle r) f []
  | _, some v => g.complete (← g.settle r) f [v]
  | _, none => return { (← g.settle r) with pending := some (f, []), hungry := true }

/-- an argument that is no option: a value, or one for the other place -/
def plain (g : Grammar κ α) (r : Reading κ α) (arg : String) : Except UsageError (Reading κ α) := do
  match r.pending with
  | some (f, values) =>
    if r.hungry ∧ !r.literal then
      return { r with pending := some (f, values ++ [arg]), hungry := f.arity = .many }
  | none => pure ()
  match g.other with
  | none => .error .unknownArgument
  | some place =>
    match r.pending with
    | some (f, values) =>
      if f.key = place.key then return { r with pending := some (f, values ++ [arg]) }
      else return { (← g.settle r) with pending := some (place, [arg]) }
    | none => return { r with pending := some (place, [arg]) }

/-- an option known by a word, with what follows an equality sign -/
def longOption (g : Grammar κ α) (r : Reading κ α) (body : List Char) : Except UsageError (Reading κ α) :=
  let name := String.ofList (body.takeWhile (· ≠ '='))
  let value := match body.dropWhile (· ≠ '=') with
    | [] => none
    | _ :: v => some (String.ofList v)
  match g.flags.find? (·.long = some name) with
  | none => .error .unknownArgument
  | some f => g.start r f value

/-- options known by letters, the last one with what follows it, one equality sign apart -/
def shortOptions (g : Grammar κ α) (r : Reading κ α) : List Char → Except UsageError (Reading κ α)
  | [] => .ok r
  | c :: rest =>
    match g.flags.find? (·.short = some c) with
    | none => .error .unknownArgument
    | some f =>
      if f.arity = .none then do shortOptions g (← g.start r f none) rest
      else
        match rest with
        | [] => g.start r f none
        | '=' :: v => g.start r f (some (String.ofList v))
        | v => g.start r f (some (String.ofList v))

/-- reads one argument -/
def step (g : Grammar κ α) (r : Reading κ α) (arg : String) : Except UsageError (Reading κ α) :=
  if r.literal then g.plain r arg
  else
    match arg.toList with
    | ['-', '-'] => .ok { r with literal := true }
    | '-' :: '-' :: body => g.longOption r body
    | ['-'] => g.plain r arg
    | '-' :: letters => g.shortOptions r letters
    | _ => g.plain r arg

/-- reads all arguments, starting from `result` -/
def read (g : Grammar κ α) (result : α) (args : List String) : Except UsageError α := do
  let r ← args.foldlM g.step { result }
  return (← g.settle r).result

end Grammar

end Benchwork.CommandLine
