/-
What a shell says about scripts and programs that go wrong, and what it shows when it is asked to show its commands.
-/
import Benchwork.Shell.OwnCommand
import Benchwork.Shell.Reader

namespace Benchwork.Shell

open Benchwork.Text Running

/-! ## Complaints -/

/-- what is said about a text that is no script; `label` is where the text comes from -/
def complainSyntax (label : Option String) (text : List Char) (fault : Reader.Fault) : Running Unit := do
  let f ← frame
  match f.dialect with
  | .plain => do
    let message := match fault.mistake with
      | .unexpected plain _ wanted =>
        plain ++ " unexpected" ++ (match wanted with
          | some w => " (expecting " ++ w ++ ")"
          | none => "")
      | .unclosed _ plain => plain
      | .condition reason _ => reason
      | .other plain => plain
    modifyFrame ({ · with line := fault.line })
    complain ("Syntax error: " ++ message)
  | .extended => do
    let place := f.speakerName.getD f.name ++ ": " ++ (match label with
      | some l => l ++ ": "
      | none => "") ++ "line " ++ toString fault.line ++ ": "
    let line := String.ofList ((text.splitOn '\n').getD (fault.line - 1) [])
    let tick := String.ofList [Reader.backquote]
    let message := match fault.mistake with
      | .unexpected _ "" _ => place ++ "syntax error: unexpected end of file\n"
      | .unexpected _ token _ =>
        place ++ "syntax error near unexpected token " ++ tick ++ token ++ "'\n" ++ place ++ tick ++ line ++ "'\n"
      | .unclosed mark _ =>
        place ++ "unexpected EOF while looking for matching " ++ tick ++ String.ofList [mark] ++ "'\n"
      | .condition reason token =>
        place ++ reason ++ "\n" ++ place ++ "syntax error near " ++ tick ++ token ++ "'\n" ++ place ++ tick ++ line ++ "'\n"
      | .other plain => place ++ "syntax error: " ++ plain ++ "\n"
    modifyProcess (·.complain message)

/-! ## Showing commands -/

/-- a line that shows what is done, if that is wanted -/
def traceLine (text : String) : Running Unit := do
  if ← isOn "xtrace" then
    let sign := (← parameter? "PS4").getD "+ "
    let depth := (← frame).traceDepth
    let more := String.ofList (List.replicate depth (sign.toList.headD '+'))
    modifyProcess (·.complain (more ++ sign ++ text ++ "\n"))

/-- a word as it is shown: with quotes where a shell needs them -/
def shownWord (s : String) : String :=
  let isBare := fun (c : Char) => c.isAlphanum || "_-./:=@%+,".contains c
  let isOdd := fun (c : Char) => c.toNat < 32 && c ≠ '\t' && c ≠ '\n' || c.toNat ≥ 127
  let odd := fun (c : Char) =>
    if isOdd c then
      let digits := Nat.toDigits 8 c.toNat
      '\\' :: List.replicate (3 - digits.length) '0' ++ digits
    else if c = '\'' || c = '\\' then ['\\', c] else [c]
  if s.toList.any isOdd then "$'" ++ String.ofList (s.toList.flatMap odd) ++ "'"
  else if s ≠ "" && s.toList.all isBare then s
  else Expansion.inQuotes s

/-- a part of a word as it stands in a script, without the quotes around it -/
def partSource : Part → String
  | .text cs _ => String.ofList cs
  | .parameter name none .value _ => "$" ++ name
  | .parameter name _ _ _ => "$\x7b" ++ name ++ "\x7d"
  | .output _ _ => "$(...)"
  | .stream _ => "<(...)"
  | .sum e _ => "$((" ++ Reader.textOf e ++ "))"
  | .declared a => assignedName a

def isQuotedPart : Part → Bool
  | .text _ quoted | .parameter _ _ _ quoted | .output _ quoted | .sum _ quoted => quoted
  | .stream _ | .declared _ => false

/-- a word as it stands in a script; `inside` if double quotes are open -/
def wordSource (inside : Bool) : Word → String
  | [] => if inside then "\"" else ""
  | p :: rest =>
    let quoted := isQuotedPart p
    (if quoted ≠ inside then "\"" else "") ++ partSource p ++ wordSource quoted rest

/-- an assignment as it is shown -/
def shownSetting (a : Assignment) (value : String) : String :=
  match a with
  | .text name none _ _ => name ++ "=" ++ (if value = "" then "" else shownWord value)
  | .text name (some index) _ _ => name ++ "[" ++ Reader.textOf index ++ "]=" ++ shownWord value
  | .list name _ values => name ++ "=(" ++ " ".intercalate (values.map fun v => wordSource false v.2) ++ ")"

/-- shows a command before it is carried out -/
def traceCommand (settings : List (Assignment × String)) (fields : List String) : Running Unit := do
  if ← isOn "xtrace" then
    if ← isPlain then traceLine (" ".intercalate (settings.map (fun v => assignedName v.1 ++ "=" ++ v.2) ++ fields))
    else
      for (a, value) in settings do
        traceLine (shownSetting a value)
      if !fields.isEmpty then traceLine (" ".intercalate (fields.map shownWord))

/-- shows the head of a longer command; the plain shell shows none -/
def traceHead (text : Unit → String) : Running Unit := do
  if (← isOn "xtrace") && !(← isPlain) then traceLine (text ())

/-! ## Ends -/

/-- the signal that has come to the shell at hand and ends it -/
def lastSignal? : Running (Option Nat) := do
  let p ← process
  let f ← frame
  let due := (p.strikes.takeWhile (·.time ≤ p.clock)).filter fun s =>
    s.reaches p.pid && p.hears s.signal && !Signal.isHarmless s.signal
  return (due.find? fun s => Signal.isFinal s.signal || f.traps.all (·.1 ≠ s.signal)).map (·.signal)

/-- what is said about a program that was ended by a signal, unless the shell ends at the same time -/
def reportEnding (e : Ending) : Running Unit := do
  match e with
  | .signal n =>
    match ← lastSignal? with
    | some m => throw (.finish (.signal m))
    | none => pure ()
    if n ≠ 2 && n ≠ 13 then
      if ← isPlain then modifyProcess (·.complain (Signal.obituary n ++ "\n"))
      else if n = 15 then modifyProcess (·.complain "Terminated\n")
      else do
        let text := toString ((← process).next - 1) ++ " " ++ Signal.obituary n
        complain text
  | .exit _ => pure ()

/-- complains about a program that could not be started; gives the status -/
def complainProgram (name : String) (e : Fault) : Running Nat := do
  let s ← get
  let isMissing := e = .notFound || e = .notDirectory
  let hasSlash := name.contains '/'
  let path := (s.parameter? "PATH").getD ""
  if s.frame.dialect = .plain then do
    complain (name ++ ": " ++ (if isMissing then (if name = "" then "Permission denied" else "not found") else e.description))
    return if !hasSlash || isMissing || e = .tooManyLinks || e = .nameTooLong then 127 else 126
  else
    let isThere := s.process.files.pathExists (Process.pathOf name)
    let isDir := s.process.files.isDir (Process.pathOf name)
    let file := if hasSlash then name
      else ((Image.candidates path name).find? fun c => s.process.files.pathExists (Process.pathOf c)).getD name
    let text := if isMissing then
        (if !hasSlash then (if path = "" then "No such file or directory" else "command not found")
        else if isThere then "cannot execute: required file not found"
        else "No such file or directory")
      else if isDir then "Is a directory"
      else if e = .badExecutable then "cannot execute binary file: Exec format error"
      else e.description
    complain ((if isMissing then name else file) ++ ": " ++ text)
    return if isMissing then 127 else 126

end Benchwork.Shell
