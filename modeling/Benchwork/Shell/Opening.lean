/-
How a shell begins: its arguments, its first variables, and where it finds programs.
-/
import Benchwork.Shell.OwnCommand

namespace Benchwork.Shell

open Benchwork.Text Running

/-- the options of a shell at its start -/
structure ShellOrder where
  inline : Bool := false
  fromInput : Bool := false
  operands : List String := []

/-- reads the arguments of a shell; a wrong one is a complaint -/
def shellOrder (dialect : Dialect) (fuel : Nat) (o : ShellOrder) (args : List String) : Running (Option ShellOrder) := do
  match fuel, args with
  | 0, _ | _, [] => return some o
  | fuel + 1, a :: rest =>
    let refuse := fun (plain extended : String) => do
      let f ← frame
      modifyProcess (·.complain (f.name ++ ": " ++ (if dialect = .plain then "0: " ++ plain else extended) ++ "\n"))
      return none
    let isLong := dialect = .extended && a.startsWith "--" && a ≠ "--"
    if a = "--" || a = "-" then return some { o with operands := rest }
    else if isLong then
      if ["--norc", "--noprofile", "--posix", "--login", "--restricted", "--noediting"].contains a then
        shellOrder dialect fuel o rest
      else if a = "--rcfile" || a = "--init-file" then shellOrder dialect fuel o (rest.drop 1)
      else refuse "" (a ++ ": invalid option")
    else
      match a.toList with
      | sign :: c :: cs =>
        if sign ≠ '-' && sign ≠ '+' then return some { o with operands := args }
        else
          let on := sign = '-'
          let again := if cs.isEmpty then rest else String.ofList (sign :: cs) :: rest
          match c with
          | 'c' => shellOrder dialect fuel { o with inline := true } again
          | 's' => do
            turn "stdin" true
            shellOrder dialect fuel { o with fromInput := true } again
          | 'l' | 'i' => shellOrder dialect fuel o again
          | 'o' =>
            match rest with
            | name :: more =>
              if (OwnCommand.switchNames dialect).contains name then do
                turn name on
                shellOrder dialect fuel o (if cs.isEmpty then more else String.ofList (sign :: cs) :: more)
              else refuse ("Illegal option -o " ++ name) ("line 0: bash: " ++ name ++ ": invalid option name")
            | [] => return some o
          | c =>
            match OwnCommand.switchOf? dialect c with
            | some name => do
              turn name on
              shellOrder dialect fuel o again
            | none => refuse ("Illegal option " ++ String.ofList [sign, c]) (String.ofList [sign, c] ++ ": invalid option")
      | _ => return some { o with operands := args }

/-- the variables that a shell begins with -/
def firstVariables (dialect : Dialect) (p : Process) : List (String × Variable) :=
  let given := (p.environment.filter fun e => OwnCommand.isName e.1).map fun e =>
    (e.1, ({ value := some (.text e.2), isExported := true } : Variable))
  let put := fun (vs : List (String × Variable)) (name value : String) (exported : Bool) =>
    vs.filter (·.1 ≠ name) ++ [(name, ({ value := some (.text value), isExported := exported } : Variable))]
  let add := fun (vs : List (String × Variable)) (name value : String) =>
    if vs.any (·.1 = name) then vs else put vs name value false
  let here := Process.nameOf p.files.cwdPath
  let isHere := fun (name : String) =>
    match p.files.lookup .target (Process.pathOf name) with
    | .ok (.found loc _) => name.startsWith "/" && loc = p.files.cwd
    | _ => false
  let pwd := ((p.environment.get? "PWD").filter isHere).getD here
  let vs := put given "PWD" pwd true
  let vs := put vs "IFS" " \t\n" false
  let vs := put vs "PPID" (toString p.parent) false
  let vs := put vs "OPTIND" "1" false
  let vs := add vs "PATH" "/usr/local/sbin:/usr/local/bin:/usr/sbin:/usr/bin:/sbin:/bin"
  let vs := add vs "PS4" "+ "
  match dialect with
  | .plain => add (add vs "PS1" "# ") "PS2" "> "
  | .extended =>
    let level := (((p.environment.get? "SHLVL").bind String.toNat?).getD 0) + 1
    let vs := put vs "SHLVL" (toString level) true
    let vs := add vs "BASH_VERSION" "5.2.15(1)-release"
    let vs := vs ++ [("BASH_VERSINFO", ({ value := some (Frame.listOf
      ["5", "2", "15", "1", "release", "x86_64-pc-linux-gnu"]), isFixed := true } : Variable))]
    let vs := add vs "HOSTTYPE" "x86_64"
    let vs := add vs "MACHTYPE" "x86_64-pc-linux-gnu"
    let vs := add vs "BASH" "/bin/bash"
    let vs := add vs "HOSTNAME" "localhost"
    add vs "OSTYPE" "linux-gnu"

/-! ## Programs -/

/-- a file that no shell takes for a script -/
def looksBinary (content : List UInt8) : Bool :=
  (content.takeWhile (· ≠ 0x0A)).contains 0 || content.take 4 = Image.magic.take 4

/-- where a program is, with the environment it gets; a file that is no program is a script for the same kind of shell -/
def found (s : State) (env : Environment) (name : String) (args : List String) : Except Fault (Invocation × Environment) :=
  let path := s.parameter? "PATH"
  let plain := s.frame.dialect = .plain
  let env := if plain then env else env.set "_" ((Image.whereIs s.process.files (path.getD "") name).getD name)
  let lookup := match path with
    | none => if name.contains '/' then env else env.set "PATH" "/nonexistent"
    | some p => env.set "PATH" p
  match Image.locate s.process.files lookup name args with
  | .ok inv => .ok (inv, env)
  | .error .badExecutable =>
    let file := if name.contains '/' then name
      else (Image.whereIs s.process.files (path.getD "") name).getD name
    match s.process.files.read (Process.pathOf file) with
    | .ok content =>
      if looksBinary content then .error .badExecutable
      else .ok (⟨if plain then "sh" else "bash", if plain then "/bin/sh" else s.frame.name, file :: args⟩, env)
    | .error e => .error e
  | .error e => .error e

end Benchwork.Shell
