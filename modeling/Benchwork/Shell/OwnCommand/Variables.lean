/-
Commands for variables.

Variables are given to programs, fixed, hidden while a function runs, or taken away.
-/
import Benchwork.Shell.OwnCommand.Basic

namespace Benchwork.Shell.OwnCommand

open Benchwork.Text

/-- complains about a name that is none -/
def badName (a name : String) : Running Nat :=
  refuse (name ++ ": bad variable name") (tick ++ a ++ "': not a valid identifier") 1

/-- marks variables, setting those with a value -/
def markNames (mark : Variable → Variable) (args : List String) : Running Nat := do
  let mut code := 0
  for a in args do
    let (name, value) := cutSetting a
    if !isName name then
      let c ← badName a name
      code := c
    else
      match value with
      | some v => Running.assign name v
      | none => pure ()
      Running.putVariable name (mark ((← Running.lookup? name).getD {}))
  return code

/-- prints the marked variables in a form that a shell reads back -/
def printMarked (word letter : String) (isMarked : Variable → Bool) : Running Nat := do
  let plain ← Running.isPlain
  for (name, v) in ← sortedVariables do
    if isMarked v then
      let value := match v.value with
        | some (.text s) =>
          "=" ++ (if plain then Expansion.inQuotes s else "\"" ++ ((s.replace "\\" "\\\\").replace "\"" "\\\"") ++ "\"")
        | _ => ""
      Running.say ((if plain then word ++ " " else "declare -" ++ letter ++ " ") ++ name ++ value ++ "\n")
  return 0

def exportNames (args : List String) : Running Nat := do
  match args with
  | [] | "-p" :: _ => printMarked "export" "x" (·.isExported)
  | "-n" :: rest =>
    if ← Running.isPlain then Running.fail "Illegal option -n" else markNames ({ · with isExported := false }) rest
  | "--" :: rest => markNames ({ · with isExported := true }) rest
  | _ => markNames ({ · with isExported := true }) args

def fixNames (args : List String) : Running Nat := do
  match args with
  | [] | "-p" :: _ => printMarked "readonly" "r" (·.isFixed)
  | "--" :: rest => markNames ({ · with isFixed := true }) rest
  | _ => markNames ({ · with isFixed := true }) args

def unset (args : List String) : Running Nat := do
  let (functions, names) := match args with
    | "-f" :: rest => (true, rest)
    | "-v" :: rest => (false, rest)
    | "--" :: rest => (false, rest)
    | rest => (false, rest)
  let mut code := 0
  for name in names do
    if functions then Running.modifyFrame fun f => { f with functions := f.functions.filter (·.1 ≠ name) }
    else if name.endsWith "]" && name.contains '[' then
      let base := String.ofList (name.toList.takeWhile (· ≠ '['))
      let index := String.ofList (((name.toList.dropWhile (· ≠ '[')).drop 1).dropLast)
      match (← Running.lookup? base).bind (·.value) with
      | some v => Running.assignValue base (v.dropPlace index)
      | none => pure ()
    else if !isName name then
      if ← Running.isPlain then
        let c ← badName name name
        code := c
    else
      match ← Running.lookup? name with
      | some v =>
        if v.isFixed then
          let c ← refuse (name ++ ": is read only") (name ++ ": cannot unset: readonly variable") 1
          code := c
        else Running.dropVariable name
      | none => Running.modifyFrame fun f => { f with functions := f.functions.filter (·.1 ≠ name) }
  return code

/-- hides a variable until the function is left -/
def hide (name : String) : Running Unit := do
  let before ← Running.lookup? name
  Running.modifyFrame fun f =>
    match f.hidden with
    | top :: rest =>
      if top.any (·.1 = name) then f else { f with hidden := ((name, before) :: top) :: rest }
    | [] => f

/-- variables of a function of the plain shell -/
def localNames (args : List String) : Running Nat := do
  for a in args do
    if a ≠ "-" then
      let (name, value) := cutSetting a
      if !isName name then
        let _ ← badName a name
      else do
        let before ← Running.lookup? name
        hide name
        match value with
        | some v => do
          Running.guardFixed name
          Running.putVariable name { (before.getD {}) with value := some (.text v) }
        | none => pure ()
  return 0

/-! ## Declarations -/

/-- a text in double quotes -/
def inDoubleQuotes (s : String) : String :=
  "\"" ++ String.join (s.toList.map fun c => if "\\\"$".contains c || c = Char.ofNat 96 then String.ofList ['\\', c] else String.ofList [c]) ++ "\""

/-- a variable in a form that the shell reads back -/
def declaration (name : String) (v : Variable) : String :=
  let kind := match v.value with
    | some (.list _) => "a"
    | some (.table _) => "A"
    | _ => ""
  let letters := kind ++ (if v.isNumber then "i" else "") ++ (if v.isReference then "n" else "") ++
    (if v.isFixed then "r" else "") ++ (if v.isExported then "x" else "")
  let pairs := fun (items : List (String × String)) =>
    "(" ++ " ".intercalate (items.map fun e => "[" ++ e.1 ++ "]=" ++ inDoubleQuotes e.2)
  let value := match v.value with
    | none => ""
    | some (.text s) => "=" ++ inDoubleQuotes s
    | some (.list items) => "=" ++ pairs (items.map fun e => (toString e.1, e.2)) ++ ")"
    | some (.table items) => "=" ++ pairs items ++ (if items.isEmpty then ")" else " )")
  "declare -" ++ (if letters = "" then "-" else letters) ++ " " ++ name ++ value ++ "\n"

/-- declares one variable with the attributes of letters, and without those turned off -/
def declareOne (letters off : List Char) (name : String) (value : Option String) : Running Unit := do
  let f ← Running.frame
  let has := letters.contains
  let isLocal := f.functionDepth > 0 && !has 'g'
  if isLocal then do
    let before := f.own? name
    hide name
    if value.isNone && !(f.hidden.headD []).any (·.1 = name) then
      Running.putVariable name { (before.getD {}) with value := none, isReference := false }
  if has 'n' then Running.putVariable name { value := value.map .text, isReference := true }
  else do
    let v := ((← Running.frame).own? name).getD {}
    let v := { v with isNumber := (v.isNumber || has 'i') && !off.contains 'i', isReference := v.isReference && !isLocal }
    let v := match v.value with
      | none => if has 'A' then { v with value := some (.table []) }
        else if has 'a' then { v with value := some (.list []) } else v
      | some (.text s) => if has 'a' then { v with value := some (.list [(0, s)]) } else v
      | some _ => v
    Running.guardFixed name
    Running.putVariable name v
    match value with
    | some text =>
      let text ← if v.isNumber then do pure (toString (← Expansion.calculate text))
        else pure (if has 'l' then text.toLower else if has 'u' then text.toUpper else text)
      Running.assign name text
    | none => pure ()
    let v := ((← Running.frame).own? name).getD {}
    Running.putVariable name
      { v with isExported := (v.isExported || has 'x') && !off.contains 'x', isFixed := v.isFixed || has 'r' }

/-- declares variables of the extended shell -/
def declare (args : List String) : Running Nat := do
  let isOption := fun (a : String) => (a.startsWith "-" || a.startsWith "+") && a.length > 1
  let options := args.takeWhile isOption
  let letters := (options.filter (·.startsWith "-")).flatMap fun a => a.toList.drop 1
  let off := (options.filter (·.startsWith "+")).flatMap fun a => a.toList.drop 1
  let rest := (args.drop options.length).filter (· ≠ "--")
  let f ← Running.frame
  let mut code := 0
  if letters.contains 'F' || letters.contains 'f' then
    let names := (f.functions.map (·.1)).mergeSort fun a b => decide (a ≤ b)
    if rest.isEmpty && letters.contains 'F' then
      Running.say (String.join (names.map fun n => "declare -f " ++ n ++ "\n"))
    for n in rest do
      if names.contains n then
        if letters.contains 'F' then Running.say (n ++ "\n")
      else code := 1
  else if letters.contains 'p' || (rest.isEmpty && letters.isEmpty) then
    if rest.isEmpty then
      for (name, v) in ← sortedVariables do
        Running.say (declaration name v)
    for name in rest do
      match f.lookup? name with
      | some v => Running.say (declaration name v)
      | none => do
        Running.complain (name ++ ": not found")
        code := 1
  else
    for a in rest do
      let (name, value) := cutSetting a
      let append := name.endsWith "+" && value.isSome
      let name := if append then String.ofList (name.toList.dropLast) else name
      if !isName name then
        let c ← badName a name
        code := c
      else
        let current := (← Running.parameter? name).getD ""
        let before := if append then current else ""
        declareOne letters off name (value.map (before ++ ·))
  return code

/-- variables of a function -/
def localise (args : List String) : Running Nat := do
  let f ← Running.frame
  if f.functionDepth = 0 then refuse "not in a function" "can only be used in a function" 1
  else if f.dialect = .plain then localNames args
  else declare args

/-- works out expressions, and fails if the last one is zero -/
def calculateAll (args : List String) : Running Nat := do
  let mut last : Int := 0
  if args.isEmpty then
    Running.complain "expression expected"
    return 1
  for a in args do
    last ← Expansion.calculate a
  return if last = 0 then 1 else 0

end Benchwork.Shell.OwnCommand
