/-
Which permissions new files do not get.

A mask is three groups of three bits, for the user, the group and all others. It is given as an octal number, or by clauses
that grant or refuse permissions, such as `g-w,o=`.
-/
import Benchwork.Shell.OwnCommand.Basic

namespace Benchwork.Shell.OwnCommand

open Benchwork.Text

namespace Mask

/-- the bits of the groups that letters name; none stands for all -/
def groupsOf (letters : List Char) : Nat :=
  let one := fun (c : Char) (n : Nat) => if letters.contains c || letters.contains 'a' || letters.isEmpty then n else 0
  one 'u' 0o700 + one 'g' 0o070 + one 'o' 0o007

/-- the bits of permissions, in all groups -/
def bitsOf (letters : List Char) : Nat :=
  let one := fun (c : Char) (n : Nat) => if letters.contains c then n else 0
  one 'r' 0o444 + one 'w' 0o222 + one 'x' 0o111

/-- carries out one clause on what is allowed; a character that fits nowhere is an error -/
def clause (allowed : Nat) (cs : List Char) : Except (Bool × Char) Nat :=
  let who := cs.takeWhile fun c => "ugoa".toList.contains c
  match cs.drop who.length with
  | sign :: letters =>
    if !"+-=".toList.contains sign then .error (true, sign)
    else
      match letters.find? fun c => !"rwxXst".toList.contains c with
      | some bad => .error (false, bad)
      | none =>
        let bits := bitsOf letters &&& groupsOf who
        let kept := allowed - (allowed &&& groupsOf who)
        .ok (match sign with
          | '+' => allowed ||| bits
          | '-' => allowed - (allowed &&& bits)
          | _ => kept ||| bits)
  | [] => .error (true, cs.headD ' ')

/-- a mask as four octal digits -/
def digits (mask : Nat) : String :=
  let cs := Nat.toDigits 8 mask
  String.ofList (List.replicate (4 - cs.length) '0' ++ cs)

/-- what a mask allows, in letters -/
def letters (mask : Nat) : String :=
  let group := fun (name : String) (shift : Nat) =>
    let bits := (0o777 - mask) / shift % 8
    let one := fun (n : Nat) (c : String) => if bits &&& n ≠ 0 then c else ""
    name ++ "=" ++ one 4 "r" ++ one 2 "w" ++ one 1 "x"
  ",".intercalate [group "u" 64, group "g" 8, group "o" 1]

end Mask

def umask (args : List String) : Running Nat := do
  let plain ← Running.isPlain
  let options := args.takeWhile fun a => a.startsWith "-" && a.length > 1 && a.toList.all fun c => "-Sp".toList.contains c
  let inLetters := options.any (·.contains 'S')
  let inCode := options.any (·.contains 'p')
  let display := fun (mask : Nat) =>
    Running.say ((if inCode && !plain then "umask " ++ (if inLetters then "-S " else "") else "") ++
      (if inLetters then Mask.letters mask else Mask.digits mask) ++ "\n")
  if inCode && plain then Running.fail "Illegal option -p"
  let mask := (← Running.frame).mask
  match args.drop options.length with
  | [] => do
    display mask
    return 0
  | mode :: _ =>
    let set := fun (mask : Nat) => do
      Running.modifyFrame ({ · with mask })
      if inLetters && !plain then display mask
      return 0
    if mode.toList.head?.any Char.isDigit then
      if mode.toList.all fun c => '0' ≤ c && c ≤ '7' then
        let n := Arithmetic.valueIn 8 mode.toList
        if n ≤ 0o7777 || plain then set (n % 512)
        else refuse "" (mode ++ ": octal number out of range") 1
      else refuse ("Illegal number: " ++ mode) (mode ++ ": octal number out of range") 1
    else
      match (mode.toList.splitOn ',').foldlM Mask.clause (0o777 - mask) with
      | .ok allowed => set (0o777 - allowed)
      | .error (isSign, c) =>
        refuse ("Illegal mode: " ++ mode)
          (tick ++ String.ofList [c] ++ "': invalid symbolic mode " ++ (if isSign then "operator" else "character")) 1

end Benchwork.Shell.OwnCommand
