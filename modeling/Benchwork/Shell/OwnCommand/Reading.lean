/-
Commands that read the input, or the options of a script.

A line is cut at the separators, one part for each name, and the last name gets the rest. A backslash takes the meaning
of the next character away.
-/
import Benchwork.Shell.OwnCommand.Variables
import Benchwork.Shell.Tool.Basic

namespace Benchwork.Shell.OwnCommand

open Benchwork.Text

/-! ## Lines -/

/-- cuts a line into one part for each name; the last one gets the rest -/
def readParts (separators : List Char) (names : List String) (line : List Symbol) : List (String × String) :=
  let isWhite := fun (s : Symbol) => !s.quoted && separators.contains s.char && (s.char = ' ' || s.char = '\t' || s.char = '\n')
  let isMark := fun (s : Symbol) => !s.quoted && separators.contains s.char
  match names with
  | [] => []
  | [name] =>
    let rest := line.dropWhile isWhite
    let trimmed := (rest.reverse.dropWhile isWhite).reverse
    let trimmed := match trimmed.getLast? with
      | some last =>
        if isMark last && !(trimmed.dropLast.any isMark) then (trimmed.dropLast.reverse.dropWhile isWhite).reverse else trimmed
      | none => trimmed
    [(name, plainText trimmed)]
  | name :: more =>
    let line := line.dropWhile isWhite
    let part := line.takeWhile fun s => !isMark s
    let rest := (line.dropWhile fun s => !isMark s).dropWhile isWhite
    let rest := match rest with
      | s :: after => if isMark s then after else rest
      | [] => []
    (name, plainText part) :: readParts separators more rest

/-- a line of input: its characters, what is left, and whether it was complete; a backslash keeps the next character, and
joins lines -/
def readLine (raw : Bool) (mark : UInt8) (fuel : Nat) (bytes : List UInt8) : List Symbol × List UInt8 × Bool :=
  match fuel, bytes with
  | 0, _ => ([], bytes, false)
  | _, [] => ([], [], false)
  | fuel + 1, b :: rest =>
    let char := fun (b : UInt8) => Char.ofNat b.toNat
    if b = mark then ([], rest, true)
    else if b = 0x5C && !raw then
      match rest with
      | [] => ([], [], false)
      | c :: after =>
        if c = 0x0A then readLine raw mark fuel after
        else
          let (line, left, whole) := readLine raw mark fuel after
          (⟨char c, true⟩ :: line, left, whole)
    else
      let (line, left, whole) := readLine raw mark fuel rest
      (⟨char b, false⟩ :: line, left, whole)

/-- what `read` was asked for -/
structure ReadOrder where
  raw : Bool := false
  stream : Nat := 0
  mark : UInt8 := 0x0A
  count : Option Nat := none
  list : Option String := none
  names : List String := []

def readOrder (extended : Bool) (fuel : Nat) (o : ReadOrder) (args : List String) : ReadOrder :=
  match fuel, args with
  | 0, _ => o
  | _, [] => o
  | fuel + 1, a :: rest =>
    match a.toList with
    | ['-', '-'] => { o with names := rest }
    | '-' :: c :: cs =>
      let value := if cs.isEmpty then rest.headD "" else String.ofList cs
      let after := if cs.isEmpty then rest.drop 1 else rest
      match c with
      | 'r' => readOrder extended fuel { o with raw := true } (if cs.isEmpty then rest else String.ofList ('-' :: cs) :: rest)
      | 's' | 'e' => readOrder extended fuel o (if cs.isEmpty then rest else String.ofList ('-' :: cs) :: rest)
      | 'p' | 't' | 'i' => readOrder extended fuel o after
      | 'u' => readOrder extended fuel { o with stream := value.toNat?.getD 0 } after
      | 'd' => readOrder extended fuel { o with mark := ((Octets.toBytes value).head?).getD 0 } after
      | 'n' | 'N' => readOrder extended fuel { o with count := value.toNat? } after
      | 'a' => readOrder extended fuel { o with list := some value } after
      | _ => { o with names := args }
    | _ => { o with names := args }

def read (args : List String) : Running Nat := do
  let f ← Running.frame
  if f.dialect = .plain then
    match (args.takeWhile fun a => a.startsWith "-" && a ≠ "--" && a.length > 1).find? fun a =>
      !(a.startsWith "-p" || (a.toList.drop 1).all (· = 'r')) with
    | some bad => Running.fail ("Illegal option -" ++ String.ofList (((bad.toList.drop 1).dropWhile (· = 'r')).take 1))
    | none => pure ()
  let o := readOrder (f.dialect = .extended) (2 * args.length + 8) {} args
  if o.names.isEmpty && f.dialect = .plain then Running.fail "arg count"
  match o.names.find? fun n => !isName n with
  | some bad => badName bad bad
  | none =>
    let p ← Running.process
    if (p.stream? o.stream).isNone then return 1
    let available := p.available o.stream
    let limited := match o.count with
      | some n => available.take n
      | none => available
    let (line, left, whole) := readLine o.raw o.mark (limited.length + 1) limited
    let whole := whole || (match o.count with
      | some n => limited.length = n
      | none => false)
    Running.modifyProcess fun p => p.leave o.stream (left ++ available.drop limited.length)
    let separators := separatorsOf f
    match o.list with
    | some name =>
      let fields := (Fields.addCut {} separators (line.map (·.char))).toList.map plainText
      Running.assignValue name (.list (fields.zipIdx.map fun (v, i) => (i, v)))
    | none =>
      if o.names.isEmpty then Running.assign "REPLY" (plainText line)
      else
        for (name, value) in readParts separators o.names line do
          Running.assign name value
    return if whole then 0 else 1

/-- reads lines into a list -/
def readLines (args : List String) : Running Nat := do
  let trim := args.contains "-t"
  let name := ((args.filter fun a => !a.startsWith "-").getLast?).getD "MAPFILE"
  let p ← Running.process
  let text := (Octets.ofBytes (p.available 0)).toList
  Running.modifyProcess fun p => p.leave 0 []
  let lines := if trim then linesOf text else linesWithEnds text
  Running.assignValue name (.list (lines.zipIdx.map fun (l, i) => (i, String.ofList l)))
  return 0

/-! ## Options -/

/-- takes the next option of a script -/
def nextOption (args : List String) : Running Nat := do
  let f ← Running.frame
  match args with
  | form :: name :: own => do
    let words := if own.isEmpty then f.args else own
    let given := (((← Running.parameter? "OPTIND").bind String.toNat?).getD 1)
    let index := if f.dialect = .plain && f.optionPlace ≠ 0 && given > 1 then given - 1 else given
    let quiet := form.startsWith ":"
    let place := if index = 1 && f.optionPlace = 0 then 1 else max f.optionPlace 1
    let finish := do
      Running.assign name "?"
      Running.modifyFrame ({ · with optionPlace := 0 })
      return 1
    match words[index - 1]? with
    | none => finish
    | some word =>
      let cs := word.toList
      if cs.head? ≠ some '-' || cs.length = 1 then finish
      else if word = "--" then do
        Running.assign "OPTIND" (toString (index + 1))
        finish
      else
        let letter := (cs[place]?).getD '?'
        let isLast := place + 1 ≥ cs.length
        -- the plain shell counts an argument as soon as it begins with it
        let early := f.dialect = .plain
        let step := fun (n : Nat) (p : Nat) => do
          Running.assign "OPTIND" (toString (if early && p ≠ 0 then n + 1 else n))
          Running.modifyFrame ({ · with optionPlace := p })
        let spec := form.toList.dropWhile (· ≠ letter)
        if letter = ':' || spec.isEmpty then do
          step (if isLast then index + 1 else index) (if isLast then 0 else place + 1)
          Running.assign name "?"
          if quiet then Running.assign "OPTARG" (String.ofList [letter])
          else do
            Running.dropVariable "OPTARG"
            let text := if f.dialect = .plain then "Illegal option -" ++ String.ofList [letter] ++ "\n"
              else f.name ++ ": illegal option -- " ++ String.ofList [letter] ++ "\n"
            Running.modifyProcess (·.complain text)
          return 0
        else if (spec.drop 1).head? = some ':' then
          let rest := cs.drop (place + 1)
          if !rest.isEmpty then do
            step (index + 1) 0
            Running.assign name (String.ofList [letter])
            Running.assign "OPTARG" (String.ofList rest)
            return 0
          else
            match words[index]? with
            | some value => do
              step (index + 2) 0
              Running.assign name (String.ofList [letter])
              Running.assign "OPTARG" value
              return 0
            | none => do
              step (index + 1) 0
              if quiet then do
                Running.assign name ":"
                Running.assign "OPTARG" (String.ofList [letter])
              else do
                Running.assign name "?"
                Running.dropVariable "OPTARG"
                let text := if f.dialect = .plain then "No arg for -" ++ String.ofList [letter] ++ " option\n"
                  else f.name ++ ": option requires an argument -- " ++ String.ofList [letter] ++ "\n"
                Running.modifyProcess (·.complain text)
              return 0
        else do
          step (if isLast then index + 1 else index) (if isLast then 0 else place + 1)
          Running.assign name (String.ofList [letter])
          Running.dropVariable "OPTARG"
          return 0
  | _ =>
    if f.dialect = .plain then Running.fail "Usage: getopts optstring var [arg...]"
    else do
      Running.modifyProcess (·.complain "getopts: usage: getopts optstring name [arg ...]\n")
      return 2

end Benchwork.Shell.OwnCommand
