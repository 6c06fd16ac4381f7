/-
Tools for bytes.

Files are cut, filled up, copied in blocks, or shown byte by byte; bytes are written as letters and read again.
-/
import Benchwork.Number.Binary
import Benchwork.Shell.Tool.Lines

namespace Benchwork.Shell.Tool

open Benchwork.Text Tooling

/-! ## Blocks -/

/-- a number of bytes with the factors that follow it, such as `2x4k` -/
def byteCount? (s : String) : Option Nat :=
  (s.toList.splitOn 'x').foldl (fun product piece =>
    let digits := piece.takeWhile Char.isDigit
    let factor := match String.ofList (piece.dropWhile Char.isDigit) with
      | "" | "c" => some 1
      | "w" => some 2
      | "b" => some 512
      | "kB" => some 1000
      | "K" | "k" | "KiB" => some 1024
      | "MB" => some 1000000
      | "M" | "MiB" => some 1048576
      | _ => none
    match product, factor with
    | some p, some f => if digits.isEmpty then none else some (p * Number.digitsValue digits * f)
    | _, _ => none) (some 1)

/-- the bytes of a file from the start, with zeros for those that it does not have -/
def firstBytes (n : Nat) (bytes : List UInt8) : List UInt8 := bytes.take n ++ List.replicate (n - bytes.length) 0

/-- what a copy in blocks does to the bytes on its way -/
def convert (name : String) (bytes : List UInt8) : List UInt8 :=
  let letters := fun (f : Char → Char) => bytes.map fun b => (f (Char.ofNat b.toNat)).toNat.toUInt8
  match name with
  | "ucase" => letters Char.toUpper
  | "lcase" => letters Char.toLower
  | _ => bytes

/-- copies blocks of bytes -/
def dd (args : List String) : Tooling Nat := do
  let known := ["if", "of", "bs", "ibs", "obs", "cbs", "count", "skip", "seek", "conv", "status", "iflag", "oflag"]
  let conversions := ["notrunc", "ucase", "lcase", "sync", "noerror", "fsync", "fdatasync", "excl", "nocreat", "swab",
    "sparse", "block", "unblock", "ascii", "ebcdic", "ibm"]
  let mut given : List (String × String) := []
  for a in args do
    if a.startsWith "-" then misuse 1 ("unrecognized option " ++ literal a)
    let key := String.ofList (a.toList.takeWhile (· ≠ '='))
    if !a.contains '=' || key ∉ known then misuse 1 ("unrecognized operand " ++ literal a)
    given := (key, String.ofList ((a.toList.dropWhile (· ≠ '=')).drop 1)) :: given
  let value? := fun (key : String) => (given.find? (·.1 = key)).map (·.2)
  for key in ["bs", "ibs", "obs", "count", "skip", "seek"] do
    match value? key with
    | some v =>
      if (byteCount? v).isNone || (byteCount? v = some 0 && key.endsWith "bs") then
        complain ("invalid number: " ++ literal v)
        quit 1
    | none => pure ()
  let number := fun (key : String) => (value? key).bind byteCount?
  let changes := ((value? "conv").map fun v => (v.toList.splitOn ',').map String.ofList).getD []
  match changes.find? (· ∉ conversions) with
  | some wrong => misuse 1 ("invalid conversion: " ++ literal wrong)
  | none => pure ()
  let inSize := ((number "bs").orElse fun _ => number "ibs").getD 512
  let outSize := ((number "bs").orElse fun _ => number "obs").getD 512
  let start := (number "skip").getD 0 * inSize
  let wanted := (number "count").map (· * inSize)
  let source ← match value? "if" with
    | some name =>
      match Process.endless? name (start + wanted.getD 1048576) with
      | some bytes => pure bytes
      | none =>
        match ← input name with
        | .ok bytes => pure bytes
        | .error .isDirectory => do
          complain ("error reading " ++ quoted name ++ ": Is a directory")
          quit 1
        | .error e => do
          complain ("failed to open " ++ quoted name ++ ": " ++ e.description)
          quit 1
    | none => do
      let bytes := (← get).available 0
      let used := start + wanted.getD bytes.length
      modify (·.leave 0 (bytes.drop used))
      pure bytes
  let part := source.drop start
  let taken := match wanted with
    | some n => part.take n
    | none => part
  let padded := if changes.contains "sync" then
      firstBytes ((taken.length + inSize - 1) / inSize * inSize) taken
    else taken
  let copied := changes.foldl (fun bytes name => convert name bytes) padded
  match value? "of" with
  | none => write copied
  | some name =>
    if name ≠ "/dev/null" then
      let place := (number "seek").getD 0 * outSize
      let before := ((← get).readFile name).toOption.getD []
      let rest := if changes.contains "notrunc" then before.drop (place + copied.length) else []
      match ← change fun fs => fs.write (Process.pathOf name) (firstBytes place before ++ copied ++ rest) with
      | none => pure ()
      | some e => do
        complain ("failed to open " ++ quoted name ++ ": " ++ e.description)
        quit 1
  let records := fun (bytes : List UInt8) (size : Nat) =>
    toString (bytes.length / size) ++ "+" ++ (if bytes.length % size = 0 then "0" else "1") ++ " records "
  let status := (value? "status").getD ""
  if status ≠ "none" then
    modify (·.complain (records taken inSize ++ "in\n" ++ records copied outSize ++ "out\n"))
    if status ≠ "noxfer" then modify (·.complain (toString copied.length ++ " bytes copied, 0.0001 s, 1.0 MB/s\n"))
  return 0

/-- sets the sizes of files -/
def truncate (args : List String) : Tooling Nat := do
  let c ← choices 1
    [⟨"s", ["size"], true⟩, ⟨"c", ["no-create"], false⟩, ⟨"r", ["reference"], true⟩, ⟨"o", ["io-blocks"], false⟩] args
  if !c.has "s" && !c.has "r" then misuse 1 "you must specify either '--size' or '--reference'"
  if c.operands.isEmpty then misuse 1 "missing file operand"
  let base ← match c.value? "r" with
    | some name =>
      match ← input name with
      | .ok bytes => pure (some bytes.length)
      | .error e => do
        complain ("cannot stat " ++ quoted name ++ ": " ++ e.description)
        quit 1
    | none => pure none
  let order := ((c.value? "s").getD "+0").toList
  let (sign, digits) := match order with
    | d :: rest => if "+-<>/%".contains d then (some d, rest) else (none, order)
    | [] => (none, [])
  let amount ← match byteCount? (String.ofList digits) with
    | some n => pure n
    | none => do
      complain ("Invalid number: " ++ literal ((c.value? "s").getD ""))
      quit 1
  onEach c.operands fun name => do
    match ← input name with
    | .error .isDirectory => do
      complain ("cannot open " ++ quoted name ++ " for writing: Is a directory")
      return false
    | content => do
      let bytes := content.toOption.getD []
      let size := base.getD bytes.length
      let target := match sign with
        | some '+' => size + amount
        | some '-' => size - amount
        | some '<' => min size amount
        | some '>' => max size amount
        | some '/' => if amount = 0 then size else size / amount * amount
        | some '%' => if amount = 0 then size else (size + amount - 1) / amount * amount
        | _ => amount
      if c.has "c" && content.toOption.isNone then return true
      else
        match ← change fun fs => fs.write (Process.pathOf name) (firstBytes target bytes) with
        | none => return true
        | some e => do
          complain ("cannot open " ++ quoted name ++ " for writing: " ++ e.description)
          return false

/-! ## Pieces -/

/-- the name of the `n`th piece: letters or digits -/
def pieceName (letters : Bool) (length n : Nat) : String :=
  let base := if letters then 26 else 10
  let digit := fun (d : Nat) => Char.ofNat ((if letters then 97 else 48) + d)
  String.ofList ((List.range length).foldl (fun (acc : List Char × Nat) _ =>
    (digit (acc.2 % base) :: acc.1, acc.2 / base)) ([], n)).1

/-- cuts a file into pieces -/
def split (args : List String) : Tooling Nat := do
  let args := args.map fun a =>
    match a.toList with
    | '-' :: d :: more => if d.isDigit && more.all Char.isDigit then "-l" ++ String.ofList (d :: more) else a
    | _ => a
  let c ← choices 1
    [⟨"l", ["lines"], true⟩, ⟨"b", ["bytes"], true⟩, ⟨"d", ["numeric-suffixes"], false⟩, ⟨"a", ["suffix-length"], true⟩,
     ⟨"additional-suffix", ["additional-suffix"], true⟩, ⟨"e", [], false⟩, ⟨"verbose", ["verbose"], false⟩] args
  let name := c.operands.headD "-"
  let front := c.operands.getD 1 "x"
  let bytes ← match ← input name with
    | .ok bytes => pure bytes
    | .error e => do
      if e = .isDirectory then nameFault name e
      else complain ("cannot open " ++ quoted name ++ " for reading: " ++ e.description)
      quit 1
  let count := fun (key what : String) => (do
    match c.value? key with
    | none => return none
    | some v =>
      match byteCount? v with
      | some 0 | none => do
        complain ("invalid number of " ++ what ++ ": " ++ literal v)
        quit 1
      | some n => return some n : Tooling (Option Nat))
  let size ← count "b" "bytes"
  let lines ← count "l" "lines"
  let pieces := match size with
    | some n => inGroups n (bytes.length + 1) bytes
    | none =>
      let all := linesWithEnds (Octets.ofBytes bytes).toList
      (inGroups (lines.getD 1000) (all.length + 1) all).map fun (g : List (List Char)) => Octets.toBytes (String.ofList g.flatten)
  let length := ((c.value? "a").bind String.toNat?).getD 2
  for (piece, i) in pieces.zipIdx do
    let target := front ++ pieceName (!c.has "d") length i ++ (c.value? "additional-suffix").getD ""
    if c.has "verbose" then say ("creating file " ++ quoted target ++ "\n")
    match ← change fun fs => fs.write (Process.pathOf target) piece with
    | none => pure ()
    | some e => do
      complain (nameShown target ++ ": " ++ e.description)
      quit 1
  return 0

/-! ## Letters for bytes -/

/-- how many bits a letter stands for, and which letters -/
structure Alphabet where
  bits : Nat
  letters : List Char
  /-- the letters of a whole group -/
  group : Nat

def base64Alphabet : Alphabet :=
  ⟨6, "ABCDEFGHIJKLMNOPQRSTUVWXYZabcdefghijklmnopqrstuvwxyz0123456789+/".toList, 4⟩

def base32Alphabet : Alphabet := ⟨5, "ABCDEFGHIJKLMNOPQRSTUVWXYZ234567".toList, 8⟩

/-- the bits of a number, highest first -/
def bitsOf (count n : Nat) : List Bool := ((List.range count).map fun i => decide (n / Number.twoTo i % 2 = 1)).reverse

/-- the number of bits, highest first -/
def ofBits (bits : List Bool) : Nat := bits.foldl (fun n b => 2 * n + b.toNat) 0

namespace Alphabet

/-- bytes as letters; the last group is filled up with equals signs -/
def encode (a : Alphabet) (bytes : List UInt8) : List Char :=
  let bits := bytes.flatMap fun b => bitsOf 8 b.toNat
  let digits := (inGroups a.bits (bits.length + 1) bits).map fun g =>
    a.letters.getD (ofBits (g ++ List.replicate (a.bits - g.length) false)) '='
  digits ++ List.replicate ((a.group - digits.length % a.group) % a.group) '='

/-- the bytes of a group of letters, and whether it is whole and right -/
def decodeGroup (a : Alphabet) (g : List Char) : List UInt8 × Bool :=
  let digits := g.takeWhile (· ≠ '=')
  let values := digits.map fun c => a.letters.idxOf? c
  let good := values.takeWhile Option.isSome
  let bits := good.flatMap fun v => bitsOf a.bits (v.getD 0)
  let bytes := ((inGroups 8 (bits.length + 1) bits).filter (·.length = 8)).map fun b => (ofBits b).toUInt8
  let isRight := good.length = values.length && (g.drop digits.length).all (· = '=') && g.length = a.group &&
    bits.length % 8 < a.bits
  (bytes, isRight)

/-- the bytes that letters stand for up to the first mistake, and whether there was none -/
def decode (a : Alphabet) (cs : List Char) : List UInt8 × Bool :=
  let groups := inGroups a.group (cs.length + 1) cs
  groups.foldl (fun (acc : List UInt8 × Bool) g =>
    if !acc.2 then acc else let (bytes, good) := a.decodeGroup g; (acc.1 ++ bytes, good)) ([], true)

end Alphabet

/-- writes bytes as letters, or reads them again -/
def encodeBytes (a : Alphabet) (args : List String) : Tooling Nat := do
  let c ← choices 1
    [⟨"d", ["decode"], false⟩, ⟨"i", ["ignore-garbage"], false⟩, ⟨"w", ["wrap"], true⟩] args
  if c.operands.length > 1 then misuse 1 ("extra operand " ++ literal (c.operands.getD 1 ""))
  let width ← match c.value? "w" with
    | none => pure 76
    | some v =>
      match Number.digits? v.toList with
      | some n => pure n
      | none => do
        complain ("invalid wrap size: " ++ literal v)
        quit 1
  let name := c.operands.headD "-"
  match ← input name with
  | .error .isDirectory => do
    complain "read error: Is a directory"
    return 1
  | .error e => do
    nameFault name e
    return 1
  | .ok bytes =>
    if c.has "d" then do
      let cs := (Octets.ofBytes bytes).toList.filter fun ch =>
        ch ≠ '\n' && (!c.has "i" || a.letters.contains ch || ch = '=')
      let (decoded, good) := a.decode cs
      write decoded
      if good then return 0
      else do
        complain "invalid input"
        return 1
    else do
      let cs := a.encode bytes
      if width = 0 then say (String.ofList cs)
      else say (unlines (inGroups width (cs.length + 1) cs))
      return 0

def base64 (args : List String) : Tooling Nat := encodeBytes base64Alphabet args

def base32 (args : List String) : Tooling Nat := encodeBytes base32Alphabet args

/-! ## Bytes as numbers -/

/-- how units of bytes are shown -/
inductive UnitKind where
  | octal
  | hex
  | signed
  | unsigned
  | char
  | name
  deriving DecidableEq, Repr

/-- a way to show units of bytes, perhaps with the text at the end of the line -/
structure UnitForm where
  kind : UnitKind
  size : Nat
  withText : Bool := false

namespace UnitForm

/-- the columns that a unit takes -/
def width (u : UnitForm) : Nat :=
  match u.kind with
  | .octal => (u.size * 8 + 2) / 3
  | .hex => u.size * 2
  | .signed => (toString (Number.twoTo (u.size * 8 - 1))).length + 1
  | .unsigned => (toString (Number.twoTo (u.size * 8) - 1)).length
  | .char | .name => 3

/-- names of the characters that control -/
def controlNames : List String :=
  ["nul", "soh", "stx", "etx", "eot", "enq", "ack", "bel", "bs", "ht", "nl", "vt", "ff", "cr", "so", "si", "dle", "dc1",
   "dc2", "dc3", "dc4", "nak", "syn", "etb", "can", "em", "sub", "esc", "fs", "gs", "rs", "us", "sp"]

/-- digits in a base, filled up with zeros -/
def digitsOf (base width n : Nat) : List Char :=
  let digits := Nat.toDigits base n
  List.replicate (width - digits.length) '0' ++ digits

/-- a unit of bytes, lowest byte first -/
def render (u : UnitForm) (bytes : List UInt8) : List Char :=
  let n := bytes.foldr (fun b n => n * 256 + b.toNat) 0
  match u.kind with
  | .octal => digitsOf 8 u.width n
  | .hex => digitsOf 16 u.width n
  | .unsigned => (toString n).toList
  | .signed => (toString (if n ≥ Number.twoTo (u.size * 8 - 1) then (n : Int) - Number.twoTo (u.size * 8) else n)).toList
  | .name => ((controlNames[n % 128]?).getD (if n % 128 = 127 then "del" else String.ofList [Char.ofNat (n % 128)])).toList
  | .char =>
    match n with
    | 0 => ['\\', '0']
    | 7 => ['\\', 'a']
    | 8 => ['\\', 'b']
    | 9 => ['\\', 't']
    | 10 => ['\\', 'n']
    | 11 => ['\\', 'v']
    | 12 => ['\\', 'f']
    | 13 => ['\\', 'r']
    | n => if 32 ≤ n && n < 127 then [Char.ofNat n] else digitsOf 8 3 n

/-- the size that a number or letter after a kind gives, and what follows -/
def sizeAfter (usual : Nat) (cs : List Char) : Nat × List Char :=
  match cs with
  | 'C' :: rest => (1, rest)
  | 'S' :: rest => (2, rest)
  | 'I' :: rest => (4, rest)
  | 'L' :: rest => (8, rest)
  | _ =>
    let digits := cs.takeWhile Char.isDigit
    (if digits.isEmpty then usual else Number.digitsValue digits, cs.dropWhile Char.isDigit)

/-- the ways that a text such as `x1c` gives, or the character that is wrong in it -/
def parse (fuel : Nat) (cs : List Char) : Except Char (List UnitForm) :=
  match fuel, cs with
  | 0, _ | _, [] => .ok []
  | fuel + 1, c :: rest =>
    let (kind, usual) : Option UnitKind × Nat := match c with
      | 'o' => (some .octal, 4)
      | 'x' => (some .hex, 4)
      | 'd' => (some .signed, 4)
      | 'u' => (some .unsigned, 4)
      | 'c' => (some .char, 1)
      | 'a' => (some .name, 1)
      | _ => (none, 0)
    match kind with
    | none => .error c
    | some kind =>
      let (size, after) := if kind = .char || kind = .name then (1, rest) else sizeAfter usual rest
      let (withText, after) := match after with
        | 'z' :: more => (true, more)
        | _ => (false, after)
      (parse fuel after).map ({ kind, size, withText } :: ·)

end UnitForm

/-- the units of one line, spread over the columns of the widest way -/
def unitRow (block columns : Nat) (u : UnitForm) (bytes : List UInt8) : List Char :=
  let fields := block / u.size
  let pad := columns - u.width * fields
  let units := inGroups u.size (bytes.length + 1) bytes
  units.zipIdx.flatMap fun (unit, i) =>
    let gap := pad * (fields - i) / fields - pad * (fields - i - 1) / fields
    let text := u.render unit
    List.replicate (gap + u.width - text.length) ' ' ++ text

/-- shows bytes as numbers or characters -/
def od (args : List String) : Tooling Nat := do
  let c ← choices 1
    (plainSwitches "abcdfhilosvx" ++
      [⟨"A", ["address-radix"], true⟩, ⟨"t", ["format"], true⟩, ⟨"N", ["read-bytes"], true⟩, ⟨"j", ["skip-bytes"], true⟩,
       ⟨"v", ["output-duplicates"], false⟩, ⟨"w", ["width"], true⟩]) args
  let mut forms : List UnitForm := []
  for (key, value) in c.given do
    let added ← match key with
      | "t" =>
        match UnitForm.parse (value.length + 1) value.toList with
        | .ok fs => pure fs
        | .error ch => do
          complain ("invalid character '" ++ String.ofList [ch] ++ "' in type string " ++ literal value)
          quit 1
      | "a" => pure [⟨.name, 1, false⟩]
      | "b" => pure [⟨.octal, 1, false⟩]
      | "c" => pure [⟨.char, 1, false⟩]
      | "d" => pure [⟨.unsigned, 2, false⟩]
      | "i" => pure [⟨.signed, 4, false⟩]
      | "l" => pure [⟨.signed, 8, false⟩]
      | "o" => pure [⟨.octal, 2, false⟩]
      | "s" => pure [⟨.signed, 2, false⟩]
      | "h" | "x" => pure [⟨.hex, 2, false⟩]
      | _ => pure []
    forms := forms ++ added
  if forms.isEmpty then forms := [⟨.octal, 2, false⟩]
  let number := fun (key : String) => (do
    match c.value? key with
    | none => return none
    | some v =>
      match byteCount? v with
      | some n => return some n
      | none => do
        complain ("invalid -" ++ key ++ " argument " ++ literal v)
        quit 1 : Tooling (Option Nat))
  let limit ← number "N"
  let start := (← number "j").getD 0
  let block := (← number "w").getD 16
  let (radix, places) ← match (c.value? "A").getD "o" with
    | "o" => pure (8, 7)
    | "d" => pure (10, 7)
    | "x" => pure (16, 6)
    | "n" => pure (0, 0)
    | other => do
      complain ("invalid output address radix '" ++ String.ofList (other.toList.take 1) ++
        "'; it must be one character from [doxn]")
      quit 1
  let (texts, good) ← inputs c.operands nameFault
  let all := (texts.map fun t => Octets.toBytes (String.ofList t.2)).flatten
  if !good && texts.isEmpty then quit 1
  if start > all.length then
    complain "cannot skip past end of combined input"
    quit 1
  let shown := match limit with
    | some n => (all.drop start).take n
    | none => all.drop start
  let address := fun (n : Nat) => if radix = 0 then [] else UnitForm.digitsOf radix places n
  let columns := forms.foldl (fun n u => max n ((u.width + 1) * (block / u.size))) 0
  let mut last : Option (List UInt8) := none
  let mut starred := false
  for (row, i) in (inGroups block (shown.length + 1) shown).zipIdx do
    if last = some row && !c.has "v" && row.length = block then
      if !starred then say "*\n"
      starred := true
    else
      starred := false
      for (u, k) in forms.zipIdx do
        let missing := (block - row.length) / u.size
        let body := unitRow block columns u row
        let rest := List.replicate (missing * (columns / (block / u.size))) ' '
        let text := if u.withText then
            rest ++ "  >".toList ++ row.map (fun b => if 32 ≤ b.toNat && b.toNat < 127 then Char.ofNat b.toNat else '.') ++ ['<']
          else []
        let front := if k = 0 then address (start + i * block) else List.replicate places ' '
        say (String.ofList (front ++ body ++ text ++ ['\n']))
    last := some row
  if radix ≠ 0 then say (String.ofList (address (start + shown.length) ++ ['\n']))
  return if good then 0 else 1

end Benchwork.Shell.Tool
