/-
Tools that pass lines on.

They read files or their input and print it again: as a whole, numbered or backwards, or only the first or last part. One
only counts.
-/
import Benchwork.Number.Whole
import Benchwork.Shell.Regex
import Benchwork.Shell.Tool.Basic

namespace Benchwork.Shell.Tool

open Benchwork.Text Tooling

def isBlankChar (c : Char) : Bool := c = ' ' || ('\t' ≤ c && c ≤ '\r')

/-- text filled up with blanks on the left -/
def padLeft (width : Nat) (s : String) : String := String.ofList (List.replicate (width - s.length) ' ') ++ s

/-! ## Whole files -/

/-- numbers lines, except those that are like `skipped` -/
def numbered (skipped : Option (List Char)) (lines : List (List Char)) : List (List Char) :=
  (lines.foldl (fun (acc : List (List Char) × Nat) line =>
    if skipped = some line then (line :: acc.1, acc.2)
    else (((padLeft 6 (toString (acc.2 + 1))).toList ++ '\t' :: line) :: acc.1, acc.2 + 1)) ([], 0)).1.reverse

/-- drops empty lines that follow an empty line -/
def squeezeEmpty : List (List Char) → List (List Char)
  | a :: b :: rest => if a = ['\n'] && b = ['\n'] then squeezeEmpty (b :: rest) else a :: squeezeEmpty (b :: rest)
  | lines => lines

/-- a byte below 128 that is seen: a sign before a letter stands for one that controls -/
def shownLow (n : Nat) : List Char :=
  if n < 32 then ['^', Char.ofNat (n + 64)] else if n = 127 then ['^', '?'] else [Char.ofNat n]

/-- a byte that can be seen; tabs are shown only if `tabs` asks for it, and line ends never -/
def shownByte (tabs : Bool) (c : Char) : List Char :=
  if c = '\n' || (c = '\t' && !tabs) then [c]
  else if c.toNat < 128 then shownLow c.toNat
  else 'M' :: '-' :: shownLow (c.toNat - 128)

def cat (args : List String) : Tooling Nat := do
  let c ← choices 1
    [⟨"A", ["show-all"], false⟩, ⟨"b", ["number-nonblank"], false⟩, ⟨"e", [], false⟩, ⟨"E", ["show-ends"], false⟩,
     ⟨"n", ["number"], false⟩, ⟨"s", ["squeeze-blank"], false⟩, ⟨"t", [], false⟩, ⟨"T", ["show-tabs"], false⟩,
     ⟨"u", [], false⟩, ⟨"v", ["show-nonprinting"], false⟩] args
  let (texts, good) ← inputs c.operands nameFault
  let whole := (texts.map (·.2)).flatten
  let isPlain := c.given.all fun o => o.1 = "u"
  let ends := c.has "A" || c.has "E" || c.has "e"
  let tabs := c.has "A" || c.has "T" || c.has "t"
  let shows := c.has "A" || c.has "e" || c.has "t" || c.has "v"
  if isPlain then say (String.ofList whole)
  else
    let lines := linesWithEnds whole
    let lines := if c.has "s" then squeezeEmpty lines else lines
    let lines := lines.map fun l => l.flatMap fun ch =>
      if ch = '\n' then (if ends then ['$', '\n'] else [ch])
      else if shows then shownByte tabs ch
      else if tabs && ch = '\t' then ['^', 'I']
      else [ch]
    let lines := if c.has "b" then numbered (some (if ends then ['$', '\n'] else ['\n'])) lines
      else if c.has "n" then numbered none lines
      else lines
    say (String.ofList lines.flatten)
  return if good then 0 else 1

/-- lines in reverse order -/
def tac (args : List String) : Tooling Nat := do
  let c ← choices 1 [] args
  let (texts, good) ← inputs c.operands (openFault "failed to open")
  for (_, text) in texts do
    say (String.ofList (linesWithEnds text).reverse.flatten)
  return if good then 0 else 1

/-- each line backwards -/
def rev (args : List String) : Tooling Nat := do
  let c ← choices 1 [] args
  let (texts, good) ← inputs c.operands fun name e => complain ("cannot open " ++ name ++ ": " ++ e.description)
  for (_, text) in texts do
    say (unlines ((linesOf text).map List.reverse))
  return if good then 0 else 1

/-- numbers lines: those that are not empty, all, none, or those that an expression is found in -/
def nl (args : List String) : Tooling Nat := do
  let c ← choices 1
    [⟨"b", ["body-numbering"], true⟩, ⟨"i", ["line-increment"], true⟩, ⟨"n", ["number-format"], true⟩,
     ⟨"s", ["number-separator"], true⟩, ⟨"v", ["starting-line-number"], true⟩, ⟨"w", ["number-width"], true⟩] args
  let (texts, good) ← inputs c.operands nameFault
  let isChosen := fun (line : List Char) =>
    match (c.value? "b").map String.toList with
    | some ['a'] => true
    | some ['n'] => false
    | some ('p' :: source) => ((Regex.parse .basic source).map fun r => Regex.isFoundIn false r line).getD false
    | _ => !line.isEmpty
  let number := fun (key : String) (usual : Nat) => ((c.value? key).bind String.toNat?).getD usual
  let width := number "w" 6
  let mark := (c.value? "s").getD "\t"
  let shownNumber := fun (n : Nat) =>
    let digits := toString n
    let filler := fun (ch : Char) => String.ofList (List.replicate (width - digits.length) ch)
    match c.value? "n" with
    | some "ln" => digits ++ filler ' '
    | some "rz" => filler '0' ++ digits
    | _ => filler ' ' ++ digits
  let lines := linesOf (texts.map (·.2)).flatten
  let (shown, _) := lines.foldl (fun (acc : List (List Char) × Nat) line =>
    if isChosen line then (((shownNumber acc.2 ++ mark).toList ++ line) :: acc.1, acc.2 + number "i" 1)
    else ((List.replicate (width + mark.length) ' ' ++ line) :: acc.1, acc.2)) ([], number "v" 1)
  say (unlines shown.reverse)
  return if good then 0 else 1

/-- copies the input to files and to the output -/
def tee (args : List String) : Tooling Nat := do
  let c ← choices 1 [⟨"a", ["append"], false⟩, ⟨"i", ["ignore-interrupts"], false⟩, ⟨"p", [], false⟩] args
  let bytes := (← input "-").toOption.getD []
  write bytes
  onEach c.operands fun name => do
    if name = "/dev/null" then return true
    let add := c.has "a"
    match ← change fun fs => if add then fs.append (Process.pathOf name) bytes else fs.write (Process.pathOf name) bytes with
    | none => return true
    | some e => do
      nameFault name e
      return false

/-! ## The first and the last lines -/

/-- how much of a text: lines or bytes, all but the last if `exceptLast`, and from a place on if `fromPlace` -/
structure Portion where
  count : Nat := 10
  bytes : Bool := false
  exceptLast : Bool := false
  fromPlace : Bool := false

/-- the number with the factor that follows it -/
def scaled? (cs : List Char) : Option Nat :=
  let digits := cs.takeWhile Char.isDigit
  let factor := match String.ofList (cs.dropWhile Char.isDigit) with
    | "" => some 1
    | "b" => some 512
    | "kB" => some 1000
    | "K" | "k" | "KiB" => some 1024
    | "M" => some 1048576
    | _ => none
  if digits.isEmpty then none else factor.map (Number.digitsValue digits * ·)

/-- reads the amount that an option gives -/
def portion (kind : String) (minusMeans plusMeans : Portion → Portion) (bytes : Bool) (value : String) :
    Tooling Portion := do
  let (cs, change) := match value.toList with
    | '-' :: rest => (rest, minusMeans)
    | '+' :: rest => (rest, plusMeans)
    | cs => (cs, id)
  match scaled? cs with
  | some count => return change { count, bytes }
  | none => do
    complain ("invalid number of " ++ kind ++ ": " ++ literal value)
    quit 1

/-- a count given as `-5`, or as `+5` if a count may stand for a place -/
def oldCount (places : Bool) (args : List String) : List String :=
  match args with
  | a :: rest =>
    match a.toList with
    | sign :: d :: more =>
      if !(d.isDigit && more.all Char.isDigit) then args
      else if sign = '-' then "-n" :: String.ofList (d :: more) :: rest
      else if sign = '+' && places && rest.length ≤ 1 then "-n" :: a :: rest
      else args
    | _ => args
  | [] => []

/-- prints each text in part, with a title if there are several -/
def printParts (c : Choices) (texts : List (String × List Char)) (part : List Char → List Char) : Tooling Unit := do
  let titled := (c.operands.length > 1 && !c.has "q") || c.has "v"
  for ((name, text), i) in texts.zipIdx do
    if titled then
      say ((if i > 0 then "\n" else "") ++ "==> " ++ (if name = "-" then "standard input" else name) ++ " <==\n")
    say (String.ofList (part text))

def partSwitches : List Switch :=
  [⟨"n", ["lines"], true⟩, ⟨"c", ["bytes"], true⟩, ⟨"q", ["quiet", "silent"], false⟩, ⟨"v", ["verbose"], false⟩,
   ⟨"z", ["zero-terminated"], false⟩, ⟨"f", ["follow"], false⟩, ⟨"F", [], false⟩, ⟨"s", ["sleep-interval"], true⟩]

/-- the portion that options ask for -/
def portionOf (c : Choices) (minusMeans plusMeans : Portion → Portion) : Tooling Portion := do
  match c.given.reverse.find? fun o => o.1 = "n" || o.1 = "c" with
  | some ("c", value) => portion "bytes" minusMeans plusMeans true value
  | some (_, value) => portion "lines" minusMeans plusMeans false value
  | none => return {}

def head (args : List String) : Tooling Nat := do
  let c ← choices 1 (partSwitches.filter fun s => s.key ∉ ["f", "F", "s"]) (oldCount false args)
  let p ← portionOf c ({ · with exceptLast := true }) id
  let mark := if c.has "z" then Char.ofNat 0 else '\n'
  let (texts, good) ← inputs c.operands (openFault "cannot open")
  let texts := texts.map fun (name, text) =>
    match if p.bytes then Process.endless? name p.count else none with
    | some bytes => (name, (Octets.ofBytes bytes).toList)
    | none => (name, text)
  printParts c texts fun text =>
    if p.bytes then text.take (if p.exceptLast then text.length - p.count else p.count)
    else
      let lines := endedBy mark text
      (lines.take (if p.exceptLast then lines.length - p.count else p.count)).flatten
  return if good then 0 else 1

def tail (args : List String) : Tooling Nat := do
  let c ← choices 1 partSwitches (oldCount true args)
  let p ← portionOf c id ({ · with fromPlace := true })
  let mark := if c.has "z" then Char.ofNat 0 else '\n'
  let (texts, good) ← inputs c.operands (openFault "cannot open")
  printParts c texts fun text =>
    let kept := fun (size : Nat) => if p.fromPlace then p.count - 1 else size - p.count
    if p.bytes then text.drop (kept text.length)
    else
      let lines := endedBy mark text
      (lines.drop (kept lines.length)).flatten
  return if good then 0 else 1

/-! ## Counting -/

/-- the words of a text -/
def countWords (cs : List Char) : Nat :=
  (cs.foldl (fun (acc : Nat × Bool) c =>
    if isBlankChar c then (acc.1, false) else (if acc.2 then acc.1 else acc.1 + 1, true)) (0, false)).1

def wc (args : List String) : Tooling Nat := do
  let c ← choices 1
    [⟨"l", ["lines"], false⟩, ⟨"w", ["words"], false⟩, ⟨"c", ["bytes"], false⟩, ⟨"m", ["chars"], false⟩,
     ⟨"L", ["max-line-length"], false⟩] args
  let kinds := if c.given.isEmpty then ["l", "w", "c"] else ["l", "w", "m", "c", "L"].filter c.has
  let count := fun (text : List Char) (kind : String) =>
    match kind with
    | "l" => (text.filter (· = '\n')).length
    | "w" => countWords text
    | "m" => text.length
    | "c" => text.length
    | _ => (linesOf text).foldl (fun n l => max n l.length) 0
  let mut rows : List (List Nat × String) := []
  let mut good := true
  let mut size := 0
  let mut least := 1
  for name in (if c.operands.isEmpty then ["-"] else c.operands) do
    let content ← if name = "" then pure (.error .notFound) else input name
    match content with
    | .ok bytes => do
      let text := (Octets.ofBytes bytes).toList
      rows := rows ++ [(kinds.map (count text), if c.operands.isEmpty then "" else name)]
      size := size + bytes.length
      if name = "-" then least := 7
    | .error e => do
      if name = "" then complain "invalid zero-length file name" else nameFault name e
      good := false
      if e = .isDirectory then
        rows := rows ++ [(kinds.map fun _ => 0, name)]
        least := 7
  let width := if kinds.length = 1 && c.operands.length ≤ 1 then 1 else max least (toString size).length
  let total := kinds.zipIdx.map fun (k, i) =>
    let column := rows.map fun (r : List Nat × String) => r.1.getD i 0
    if k = "L" then column.foldl max 0 else column.foldl (· + ·) 0
  if c.operands.length > 1 then rows := rows ++ [(total, "total")]
  for (counts, name) in rows do
    let text := " ".intercalate (counts.map fun n => padLeft width (toString n))
    say (text ++ (if name = "" then "" else " " ++ name) ++ "\n")
  return if good then 0 else 1

end Benchwork.Shell.Tool
