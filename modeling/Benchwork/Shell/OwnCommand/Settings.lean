/-
Commands for the arguments and the switches of a shell.

Switches have letters and long names; an `o` among the letters takes a long name from the next argument.
-/
import Benchwork.Shell.OwnCommand.Flow

namespace Benchwork.Shell.OwnCommand

open Benchwork.Text

def shift (args : List String) : Running Nat := do
  let f ← Running.frame
  let move := fun (n : Nat) => do
    Running.modifyFrame fun f => { f with args := f.args.drop n }
    return 0
  match f.dialect with
  | .plain =>
    match (match args with
      | [] => some 1
      | a :: _ => plainNumber? a) with
    | none => Running.fail ("Illegal number: " ++ args.headD "")
    | some n => if n > f.args.length then Running.fail "can't shift that many" else move n
  | .extended =>
    match args with
    | [] => if f.args.isEmpty then return 1 else move 1
    | a :: _ =>
      match Number.signedWhole? a.toList with
      | none => do
        Running.complain (a ++ ": numeric argument required")
        return 1
      | some n =>
        if n < 0 then do
          Running.complain (a ++ ": shift count out of range")
          return 1
        else if n.toNat > f.args.length then return 1
        else move n.toNat

/-- the long names of switches that both kinds of shell know -/
def switchNames : Dialect → List String
  | .plain =>
    ["errexit", "noglob", "ignoreeof", "interactive", "monitor", "noexec", "stdin", "xtrace", "verbose", "vi", "emacs",
     "noclobber", "allexport", "notify", "nounset", "nolog", "debug"]
  | .extended =>
    ["allexport", "braceexpand", "emacs", "errexit", "errtrace", "functrace", "hashall", "histexpand", "history",
     "ignoreeof", "interactive-comments", "keyword", "monitor", "noclobber", "noexec", "noglob", "nolog", "notify",
     "nounset", "onecmd", "physical", "pipefail", "posix", "privileged", "verbose", "vi", "xtrace"]

/-- the switch of a letter -/
def switchOf? (d : Dialect) (c : Char) : Option String :=
  let letters := if d = .plain then Frame.switchLetters else Frame.extendedLetters
  (letters.find? (·.1 = c)).map (·.2)

/-- turns the switches of letters on or off; an `o` takes the next argument -/
def turnLetters (on : Bool) : List Char → List String → Running (List String)
  | [], rest => return rest
  | 'o' :: cs, name :: rest => do
    let f ← Running.frame
    if (switchNames f.dialect).contains name then do
      Running.turn name on
      turnLetters on cs rest
    else if f.dialect = .plain then Running.fail ("Illegal option " ++ (if on then "-" else "+") ++ "o " ++ name)
    else do
      Running.complain (name ++ ": invalid option name")
      throw (.fault 2)
  | 'o' :: cs, [] => do
    let f ← Running.frame
    if on && f.dialect = .plain then Running.say "Current option settings\n"
    for name in switchNames f.dialect do
      let state := f.switches.contains name
      if on then
        let width := if f.dialect = .plain then 16 else 15
        let gap := String.ofList (List.replicate (width - name.length) ' ')
        Running.say (name ++ gap ++ (if f.dialect = .plain then "" else "\t") ++ (if state then "on\n" else "off\n"))
      else Running.say ("set " ++ (if state then "-o " else "+o ") ++ name ++ "\n")
    turnLetters on cs []
  | c :: cs, rest => do
    let f ← Running.frame
    match switchOf? f.dialect c with
    | some name => do
      Running.turn name on
      turnLetters on cs rest
    | none =>
      if f.dialect = .plain then Running.fail ("Illegal option " ++ (if on then "-" else "+") ++ String.ofList [c])
      else do
        Running.complain ((if on then "-" else "+") ++ String.ofList [c] ++ ": invalid option")
        Running.modifyProcess (·.complain
          "set: usage: set [-abefhkmnptuvxBCEHPT] [-o option-name] [--] [-] [arg ...]\n")
        throw (.fault 2)

/-- reads switches at the front of arguments; gives the other arguments, if there is a mark or anything else -/
def turnSwitches (fuel : Nat) (args : List String) : Running (Option (List String)) := do
  match fuel, args with
  | 0, _ | _, [] => return none
  | fuel + 1, a :: rest =>
    if a = "--" then return some rest
    else
      match a.toList with
      | '-' :: c :: cs => do
        let left ← turnLetters true (c :: cs) rest
        turnSwitches fuel left
      | '+' :: c :: cs => do
        let left ← turnLetters false (c :: cs) rest
        turnSwitches fuel left
      | ['-'] => return if rest.isEmpty then none else some rest
      | _ => return some args

def setOptions (args : List String) : Running Nat := do
  if args.isEmpty then
    for (name, v) in ← sortedVariables do
      match v.value with
      | some (.text s) =>
        let plain := (← Running.isPlain) || !(s.toList.all fun c => c.isAlphanum || "_-./:=@%+,".contains c)
        Running.say (name ++ "=" ++ (if plain then Expansion.inQuotes s else s) ++ "\n")
      | _ => pure ()
    return 0
  match ← turnSwitches (args.length + 1) args with
  | some rest => Running.modifyFrame fun f => { f with args := rest }
  | none => pure ()
  return 0

/-! ## Optional behaviour -/

/-- the habits of the extended shell that can be turned on and off -/
def habits : List String :=
  ["autocd", "assoc_expand_once", "cdable_vars", "cdspell", "checkhash", "checkjobs", "checkwinsize", "cmdhist",
   "compat31", "compat32", "compat40", "compat41", "compat42", "compat43", "compat44", "complete_fullquote", "direxpand",
   "dirspell", "dotglob", "execfail", "expand_aliases", "extdebug", "extglob", "extquote", "failglob", "force_fignore",
   "globasciiranges", "globskipdots", "globstar", "gnu_errfmt", "histappend", "histreedit", "histverify", "hostcomplete",
   "huponexit", "inherit_errexit", "interactive_comments", "lastpipe", "lithist", "localvar_inherit", "localvar_unset",
   "login_shell", "mailwarn", "no_empty_cmd_completion", "nocaseglob", "nocasematch", "noexpand_translation", "nullglob",
   "patsub_replacement", "progcomp", "progcomp_alias", "promptvars", "restricted_shell", "shift_verbose", "sourcepath",
   "varredir_close", "xpg_echo"]

/-- turns habits on or off, or shows them -/
def shopt (args : List String) : Running Nat := do
  let options := args.takeWhile fun a => a.startsWith "-" && a.length > 1
  let has := fun (c : Char) => options.any fun o => o.toList.tail.contains c
  let names := args.drop options.length
  let known := if has 'o' then switchNames .extended else habits
  let mut code := 0
  for name in (if names.isEmpty then known else names) do
    if !known.contains name then
      Running.complain (name ++ (if has 'o' then ": invalid option name" else ": invalid shell option name"))
      code := 1
    else do
      let isOn ← Running.isOn name
      if !names.isEmpty && has 's' then Running.turn name true
      else if !names.isEmpty && has 'u' then Running.turn name false
      else do
        if !names.isEmpty && !isOn then code := 1
        let wanted := (!has 's' || isOn) && (!has 'u' || !isOn)
        if !has 'q' && wanted then
          if has 'p' then Running.say ("shopt " ++ (if isOn then "-s " else "-u ") ++ name ++ "\n")
          else
            let gap := String.ofList (List.replicate (15 - name.length) ' ')
            Running.say (name ++ gap ++ "\t" ++ (if isOn then "on\n" else "off\n"))
  return code

end Benchwork.Shell.OwnCommand
