/-
Tools for parts of lines, for characters and for numbers.

Places in a line are given by lists such as `1,3-5`, and characters by sets with ranges and classes.
-/
import Benchwork.Number.Binary
import Benchwork.Shell.Format
import Benchwork.Shell.Pattern
import Benchwork.Shell.Tool.Lines

namespace Benchwork.Shell.Tool

open Benchwork.Text Tooling

/-! ## Columns -/

/-- what can be wrong with a list of places -/
inductive PlaceMistake where
  | zero
  | open
  | range
  | decreasing
  | value (text : String)
  deriving DecidableEq, Repr

/-- one piece of a list of places -/
def placeRange (piece : List Char) : Except PlaceMistake (Nat × Option Nat) := do
  let number := fun (cs : List Char) =>
    match Number.digits? cs with
    | some n => Except.ok n
    | none => .error (.value (String.ofList cs))
  match piece.splitOn '-' with
  | [[]] => throw .zero
  | [a] => do
    let n ← number a
    if n = 0 then throw .zero else return (n, some n)
  | [[], []] => throw .open
  | [a, b] => do
    let low ← if a.isEmpty then pure 1 else number a
    if low = 0 then throw .zero
    if b.isEmpty then return (low, none)
    let high ← number b
    if high < low then throw .decreasing else return (low, some high)
  | _ => throw .range

/-- the places of a list, piece by piece; a mistaken value is shown with the rest of the list -/
def placesFrom (fuel : Nat) (cs : List Char) : Except PlaceMistake (List (Nat × Option Nat)) :=
  match fuel with
  | 0 => .ok []
  | fuel + 1 =>
    let isMark := fun (c : Char) => c = ',' || c = ' ' || c = '\t'
    let piece := cs.takeWhile (!isMark ·)
    let after := cs.drop piece.length
    match placeRange piece with
    | .error (.value text) => .error (.value (text ++ String.ofList after))
    | .error e => .error e
    | .ok range =>
      match after with
      | [] => .ok [range]
      | _ :: more => (placesFrom fuel more).map (range :: ·)

/-- a list of places such as `1,3-5,7-` -/
def placeList (s : String) : Except PlaceMistake (List (Nat × Option Nat)) := placesFrom (s.length + 1) s.toList

/-- the wording of a mistake in a list of fields or of other places -/
def PlaceMistake.message (fields : Bool) : PlaceMistake → String
  | .zero => if fields then "fields are numbered from 1" else "byte/character positions are numbered from 1"
  | .open => "invalid range with no endpoint: -"
  | .range => if fields then "invalid field range" else "invalid byte or character range"
  | .decreasing => "invalid decreasing range"
  | .value text => (if fields then "invalid field value " else "invalid byte/character position ") ++ literal text

def isListed (places : List (Nat × Option Nat)) (n : Nat) : Bool :=
  places.any fun p => p.1 ≤ n && (p.2.map fun high => decide (n ≤ high)).getD true

/-- the items at the places that are kept -/
def chosen {α : Type} (keep : Nat → Bool) (items : List α) : List α :=
  (items.zipIdx.filter fun e => keep (e.2 + 1)).map (·.1)

def cut (args : List String) : Tooling Nat := do
  let c ← choices 1
    [⟨"b", ["bytes"], true⟩, ⟨"c", ["characters"], true⟩, ⟨"f", ["fields"], true⟩, ⟨"d", ["delimiter"], true⟩,
     ⟨"s", ["only-delimited"], false⟩, ⟨"complement", ["complement"], false⟩, ⟨"n", [], false⟩,
     ⟨"z", ["zero-terminated"], false⟩, ⟨"output-delimiter", ["output-delimiter"], true⟩] args
  match c.given.filter fun o => ["b", "c", "f"].contains o.1 with
  | [] => misuse 1 "you must specify a list of bytes, characters, or fields"
  | _ :: _ :: _ => misuse 1 "only one list may be specified"
  | [(kind, list)] => do
    let delimiter := (c.value? "d").getD "\t"
    if delimiter.length > 1 then misuse 1 "the delimiter must be a single character"
    if kind ≠ "f" && c.has "d" then misuse 1 "an input delimiter may be specified only when operating on fields"
    if kind ≠ "f" && c.has "s" then
      misuse 1 "suppressing non-delimited lines makes sense\n\tonly when operating on fields"
    let places ← match placeList list with
      | .ok ps => pure ps
      | .error e => misuse 1 (e.message (kind = "f"))
    let divider := delimiter.toList.headD (Char.ofNat 0)
    let mark := if c.has "z" then Char.ofNat 0 else '\n'
    let keep := fun (n : Nat) => isListed places n != c.has "complement"
    let (texts, good) ← inputs c.operands nameFault
    for (_, text) in texts do
      let lines := (piecesOf mark text).filterMap fun line =>
        if kind ≠ "f" then some (chosen keep line)
        else
          let fields := line.splitOn divider
          if fields.length ≤ 1 then (if c.has "s" then none else some line)
          else
            let glue := ((c.value? "output-delimiter").getD delimiter).toList
            some (List.flatten ((chosen keep fields).intersperse glue))
      say (String.ofList (lines.flatMap (· ++ [mark])))
    return if good then 0 else 1

/-- the marks between columns: a backslash and a letter or digit is one mark, or none -/
def pasteMarks (cs : List Char) : List (List Char) :=
  match cs with
  | [] => []
  | '\\' :: c :: rest =>
    (match c with
      | 'n' => ['\n']
      | 't' => ['\t']
      | '0' => []
      | c => [c]) :: pasteMarks rest
  | c :: rest => [c] :: pasteMarks rest

/-- the lines that each of several names of the input gets, in turns -/
def dealt (share count : Nat) (lines : List (List Char)) : List (List Char) :=
  (lines.zipIdx.filter fun e => e.2 % count = share).map (·.1)

def paste (args : List String) : Tooling Nat := do
  let c ← choices 1 [⟨"d", ["delimiters"], true⟩, ⟨"s", ["serial"], false⟩, ⟨"z", ["zero-terminated"], false⟩] args
  let mark := if c.has "z" then Char.ofNat 0 else '\n'
  let names := if c.operands.isEmpty then ["-"] else c.operands
  let dashes := (names.filter (· = "-")).length
  let shared ← if dashes > 0 then input "-" else pure (.ok [])
  let common := piecesOf mark (Octets.ofBytes (shared.toOption.getD [])).toList
  let mut columns : List (List (List Char)) := []
  let mut share := 0
  for name in names do
    if name = "-" then
      columns := columns ++ [if c.has "s" then (if share = 0 then common else []) else dealt share dashes common]
      share := share + 1
    else
      match ← input name with
      | .ok bytes => columns := columns ++ [piecesOf mark (Octets.ofBytes bytes).toList]
      | .error e => do
        nameFault name e
        quit 1
  let glue := pasteMarks ((c.value? "d").getD "\t").toList
  let join := fun (fields : List (List Char)) =>
    (fields.zipIdx.flatMap fun (f, i) =>
      (if i = 0 then [] else glue.getD ((i - 1) % (max glue.length 1)) []) ++ f)
  let ended := fun (lines : List (List Char)) => String.ofList (lines.flatMap (· ++ [mark]))
  if c.has "s" then say (ended (columns.map join))
  else
    let height := columns.foldl (fun n col => max n col.length) 0
    say (ended ((List.range height).map fun i => join (columns.map fun col => col.getD i [])))
  return 0

/-- where a line stands after a character; bytes are counted one by one if that is asked for -/
def columnAfter (bytes : Bool) (column : Nat) (c : Char) : Nat :=
  if bytes then column + 1
  else
    match c with
    | '\t' => column + 8 - column % 8
    | '\r' => 0
    | '\x08' => column - 1
    | _ => column + 1

/-- cuts a line that is too long; `spaces` cuts after the last blank that fits. The line at hand is given last first -/
def foldLine (bytes spaces : Bool) (width fuel : Nat) (line : List Char) (column : Nat) (rest : List Char) :
    List (List Char) :=
  match fuel, rest with
  | 0, _ => [line.reverse ++ rest]
  | _, [] => if line.isEmpty then [] else [line.reverse]
  | fuel + 1, c :: more =>
    let next := columnAfter bytes column c
    if next ≤ width || line.isEmpty then foldLine bytes spaces width fuel (c :: line) next more
    else
      let tail := line.takeWhile fun ch => !(ch = ' ' || ch = '\t')
      if spaces && tail.length < line.length then
        (line.drop tail.length).reverse :: foldLine bytes spaces width fuel [] 0 (tail.reverse ++ rest)
      else line.reverse :: foldLine bytes spaces width fuel [] 0 rest

def fold (args : List String) : Tooling Nat := do
  let args := args.map fun a =>
    match a.toList with
    | '-' :: d :: more => if d.isDigit && more.all Char.isDigit then "-w" ++ String.ofList (d :: more) else a
    | _ => a
  let c ← choices 1 [⟨"w", ["width"], true⟩, ⟨"s", ["spaces"], false⟩, ⟨"b", ["bytes"], false⟩] args
  let width ← match c.value? "w" with
    | none => pure 80
    | some v =>
      match Number.digits? v.toList with
      | some 0 => do
        complain ("invalid number of columns: " ++ literal v ++ ": Numerical result out of range")
        quit 1
      | some n => pure n
      | none => do
        complain ("invalid number of columns: " ++ literal v)
        quit 1
  let (texts, good) ← inputs c.operands nameFault
  for (_, text) in texts do
    for line in linesWithEnds text do
      let body := line.filter (· ≠ '\n')
      let pieces := foldLine (c.has "b") (c.has "s") width (4 * body.length + 4) [] 0 body
      say (String.ofList (List.flatten (pieces.intersperse ['\n']) ++ (if line.getLast? = some '\n' then ['\n'] else [])))
  return if good then 0 else 1

/-! ## Characters -/

/-- a piece of a set: characters in order, a class with its name, or one character as often as needed or counted -/
inductive SetPiece where
  | chars (cs : List Char)
  | named (name : String) (cs : List Char)
  | repeated (c : Char) (count : Option Nat)
  deriving DecidableEq, Repr

/-- a character of a set, which a backslash may stand for -/
def setChar (cs : List Char) : Option (Char × List Char) :=
  match cs with
  | [] => none
  | ['\\'] => some ('\\', [])
  | '\\' :: c :: rest =>
    let octal := ((c :: rest).take 3).takeWhile fun d => '0' ≤ d && d ≤ '7'
    if !octal.isEmpty then
      let three := octal.foldl (fun n d => n * 8 + (d.toNat - 48)) 0
      if three < 256 then some (Char.ofNat three, (c :: rest).drop octal.length)
      else some (Char.ofNat (three / 8), (c :: rest).drop 2)
    else
      let ch := match c with
        | 'n' => '\n'
        | 't' => '\t'
        | 'r' => '\r'
        | 'a' => Char.ofNat 7
        | 'b' => Char.ofNat 8
        | 'f' => Char.ofNat 12
        | 'v' => Char.ofNat 11
        | c => c
      some (ch, rest)
  | c :: rest => some (c, rest)

/-- the repetition `[c*]` or `[c*n]` at the start of a text, after the bracket -/
def setRepeat? (cs : List Char) : Option (Except String SetPiece × List Char) :=
  match setChar cs with
  | some (c, '*' :: rest) =>
    match rest.dropWhile (· ≠ ']') with
    | _ :: after =>
      let digits := rest.takeWhile (· ≠ ']')
      if digits.isEmpty then some (.ok (.repeated c none), after)
      else if digits.all Char.isDigit then
        let base := if digits.head? = some '0' then 8 else 10
        let n := digits.foldl (fun n d => n * base + (d.toNat - 48)) 0
        some (.ok (.repeated c (if n = 0 then none else some n)), after)
      else some (.error ("invalid repeat count " ++ literal (String.ofList digits) ++ " in [c*n] construct"), after)
    | [] => none
  | _ => none

/-- the pieces of a set -/
def setPieces (fuel : Nat) (cs : List Char) : Except String (List SetPiece) :=
  match fuel, cs with
  | 0, _ | _, [] => .ok []
  | fuel + 1, '[' :: rest =>
    let plain := fun (_ : Unit) => setRange fuel '[' rest
    match rest with
    | ':' :: more =>
      let name := String.ofList (more.takeWhile (· ≠ ':'))
      match more.dropWhile (· ≠ ':') with
      | ':' :: ']' :: after =>
        let ranges := Pattern.namedClass name
        if ranges.isEmpty then .error ("invalid character class " ++ literal name)
        else
          let all := (List.range 256).map Char.ofNat
          (setPieces fuel after).map (.named name (all.filter fun c => ranges.any (Pattern.inRange c)) :: ·)
      | _ => plain ()
    | '=' :: c :: '=' :: ']' :: after => (setPieces fuel after).map (.chars [c] :: ·)
    | _ =>
      match setRepeat? rest with
      | some (.ok piece, after) => (setPieces fuel after).map (piece :: ·)
      | some (.error e, _) => .error e
      | none => plain ()
  | fuel + 1, cs =>
    match setChar cs with
    | some (c, rest) => setRange fuel c rest
    | none => .ok []
where
  /-- a range that begins with a character, or the character alone -/
  setRange (fuel : Nat) (a : Char) (rest : List Char) : Except String (List SetPiece) :=
    match fuel with
    | 0 => .ok []
    | fuel + 1 =>
      match rest with
      | '-' :: more =>
        match setChar more with
        | some (b, after) =>
          if b < a then
            .error ("range-endpoints of " ++ literal (String.ofList [a, '-', b]) ++
              " are in reverse collating sequence order")
          else
            let range := (List.range (b.toNat - a.toNat + 1)).map fun i => Char.ofNat (a.toNat + i)
            (setPieces fuel after).map (.chars range :: ·)
        | none => (setPieces fuel rest).map (.chars [a] :: ·)
      | _ => (setPieces fuel rest).map (.chars [a] :: ·)

/-- the characters of a set; one that is repeated as often as needed fills it up to `size` -/
def setChars (size : Nat) (pieces : List SetPiece) : List Char :=
  let known := pieces.foldl (fun n p => n + match p with
    | .chars cs => cs.length
    | .named _ cs => cs.length
    | .repeated _ count => count.getD 0) 0
  pieces.flatMap fun p => match p with
    | .chars cs => cs
    | .named _ cs => cs
    | .repeated c count => List.replicate (count.getD (size - known)) c

/-- leaves one of each run of a character in the set -/
def squeeze (set : List Char) : List Char → List Char
  | a :: b :: rest => if a = b && set.contains a then squeeze set (b :: rest) else a :: squeeze set (b :: rest)
  | cs => cs

/-- the pieces of a set, or the end of the tool -/
def setOf (text : String) : Tooling (List SetPiece) := do
  let trailing := (text.toList.reverse.takeWhile (· = '\\')).length
  if trailing % 2 = 1 then complain "warning: an unescaped backslash at end of string is not portable"
  match setPieces (2 * text.length + 2) text.toList with
  | .ok pieces => return pieces
  | .error message => do
    complain message
    quit 1

/-- a class of letters of one case -/
def SetPiece.isCase : SetPiece → Bool
  | .named name _ => name = "upper" || name = "lower"
  | _ => false

def tr (args : List String) : Tooling Nat := do
  let c ← match Choices.parseEarly
      [⟨"c", ["complement"], false⟩, ⟨"C", [], false⟩, ⟨"d", ["delete"], false⟩, ⟨"s", ["squeeze-repeats"], false⟩,
       ⟨"t", ["truncate-set1"], false⟩] args with
    | .ok c => pure c
    | .error message => misuse 1 message
  let name ← read
  let explained := fun (message explanation : String) => (do
    complain message
    modify (·.complain (explanation ++ "\nTry '" ++ name ++ " --help' for more information.\n"))
    quit 1 : Tooling Unit)
  let all := (List.range 256).map Char.ofNat
  let translates := !c.has "d" && !(c.has "s" && c.operands.length = 1)
  match c.operands with
  | [] => misuse 1 "missing operand"
  | [a] =>
    if !c.has "d" && !c.has "s" then
      explained ("missing operand after " ++ literal a) "Two strings must be given when translating."
    else if c.has "d" && c.has "s" then
      explained ("missing operand after " ++ literal a)
        "Two strings must be given when both deleting and squeezing repeats."
  | [_, b] =>
    if c.has "d" && !c.has "s" then
      explained ("extra operand " ++ literal b) "Only one string may be given when deleting without squeezing repeats."
  | _ :: _ :: x :: _ => misuse 1 ("extra operand " ++ literal x)
  let firstPieces ← setOf (c.operands.headD "")
  let secondPieces ← setOf (c.operands.getD 1 "")
  if firstPieces.any fun p => match p with
      | .repeated _ count => count.isNone
      | _ => false then
    complain "the [c*] repeat construct may not appear in string1"
    quit 1
  let firstSet := setChars 0 firstPieces
  let first := if c.has "c" || c.has "C" then all.filter fun ch => !firstSet.contains ch else firstSet
  let second := setChars first.length secondPieces
  if translates then
    if second.isEmpty then
      complain "when not truncating set1, string2 must be non-empty"
      quit 1
    if secondPieces.any fun p => match p with
        | .named _ _ => !p.isCase
        | _ => false then
      complain "when translating, the only character classes that may appear in\nstring2 are 'upper' and 'lower'"
      quit 1
    if secondPieces.any SetPiece.isCase && !firstPieces.any fun p => match p with
        | .named _ _ => true
        | _ => false then
      complain "misaligned [:upper:] and/or [:lower:] construct"
      quit 1
  let text := (Octets.ofBytes ((← input "-").toOption.getD [])).toList
  if !translates then
    let kept := if c.has "d" then text.filter fun ch => !first.contains ch else text
    let squeezed := if c.operands.length = 2 then second else first
    say (String.ofList (if c.has "s" then squeeze squeezed kept else kept))
  else
    let last := second.getLast?.getD ' '
    let first := if c.has "t" then first.take second.length else first
    let table := (first.zipIdx.map fun (ch, i) => (ch, second.getD i last)).reverse
    let images := (all.map fun ch => ((table.find? (·.1 = ch)).map (·.2)).getD ch).toArray
    let mapped := text.map fun ch => images.getD ch.toNat ch
    say (String.ofList (if c.has "s" then squeeze second mapped else mapped))
  return 0

/-! ## Numbers -/

/-- a decimal number, perhaps with an exponent, or a whole one of base sixteen: its digits without the point, and how many
stand after it -/
def decimal? (s : String) : Option (Int × Nat) := do
  let (negative, cs) := match s.toList with
    | '-' :: rest => (true, rest)
    | '+' :: rest => (false, rest)
    | cs => (false, cs)
  let signed := fun (n : Nat) (places : Nat) => (if negative then -(n : Int) else n, places)
  match cs with
  | '0' :: 'x' :: digits =>
    if digits.isEmpty || !digits.all Format.isHex then none
    else some (signed (Arithmetic.valueIn 16 (digits.map Char.toLower)) 0)
  | _ =>
    let whole := cs.takeWhile Char.isDigit
    let after := cs.dropWhile Char.isDigit
    let (places, after) := match after with
      | '.' :: rest => (rest.takeWhile Char.isDigit, rest.dropWhile Char.isDigit)
      | _ => ([], after)
    if whole.isEmpty && places.isEmpty then none
    else
      let value := Number.digitsValue (whole ++ places)
      match after with
      | [] => some (signed value places.length)
      | e :: power =>
        if e ≠ 'e' && e ≠ 'E' then none
        else
          let (down, digits) := match power with
            | '-' :: ds => (true, ds)
            | '+' :: ds => (false, ds)
            | ds => (false, ds)
          let n ← Number.digits? digits
          if n > 400 then none
          else if down then some (signed value (places.length + n))
          else some (signed (value * Number.tenTo (n - places.length)) (places.length - n))

/-- a number with places after the point -/
def withPlaces (places : Nat) (n : Int) : String :=
  let digits := (toString n.natAbs).toList
  let digits := List.replicate (places + 1 - digits.length) '0' ++ digits
  let sign := if n < 0 then "-" else ""
  if places = 0 then sign ++ String.ofList digits
  else
    sign ++ String.ofList (digits.take (digits.length - places)) ++ "." ++
      String.ofList (digits.drop (digits.length - places))

/-- options and numbers of `seq`; what looks like a negative number is one -/
def seqArgs (args : List String) : List String × List String :=
  let isNumber := fun (a : String) => (decimal? a).isSome
  (args.takeWhile fun a => !isNumber a, args.dropWhile fun a => !isNumber a)

/-- what is wrong with the form of the numbers of `seq`: it has one place for a number, and nothing else -/
def seqFormMistake? (form : String) : Option String :=
  let directives := fun (cs : List Char) => cs.foldl (fun (acc : List (List Char) × Option (List Char)) ch =>
    match acc.2 with
    | none => if ch = '%' then (acc.1, some []) else acc
    | some d =>
      if ch = '%' && d.isEmpty then (acc.1, none)
      else if ch.isAlpha then (acc.1 ++ [d ++ [ch]], none)
      else (acc.1, some (d ++ [ch]))) (([], none) : List (List Char) × Option (List Char))
  match (directives form.toList).1 with
  | [] => some ("format " ++ literal form ++ " has no % directive")
  | [d] =>
    let letter := d.getLast?.getD ' '
    if "aefgAEFG".toList.contains letter then none
    else some ("format " ++ literal form ++ " has unknown %" ++ String.ofList [letter] ++ " directive")
  | _ => some ("format " ++ literal form ++ " has too many % directives")

def seq (args : List String) : Tooling Nat := do
  let (front, numbers) := seqArgs args
  let c ← choices 1 [⟨"s", ["separator"], true⟩, ⟨"w", ["equal-width"], false⟩, ⟨"f", ["format"], true⟩] front
  let numbers := c.operands ++ numbers
  if numbers.isEmpty then misuse 1 "missing operand"
  if numbers.length > 3 then misuse 1 ("extra operand " ++ literal (numbers.getD 3 ""))
  match (c.value? "f").bind seqFormMistake? with
  | some message => do
    complain message
    quit 1
  | none => pure ()
  let mut values : List (Int × Nat) := []
  for a in numbers do
    match decimal? a with
    | some v => values := values ++ [v]
    | none =>
      if a.toLower = "nan" then misuse 1 ("invalid 'not-a-number' argument: " ++ literal a)
      else misuse 1 ("invalid floating point argument: " ++ literal a)
  let (first, step, last) := match values with
    | [l] => ((1, 0), (1, 0), l)
    | [f, l] => (f, (1, 0), l)
    | [f, s, l] => (f, s, l)
    | _ => ((1, 0), (1, 0), (0, 0))
  let places := max first.2 step.2
  let scale := fun (v : Int × Nat) (p : Nat) => v.1 * (Number.tenTo (p - v.2) : Int)
  let fine := max places last.2
  let a := scale first fine
  let d := scale step fine
  let z := scale last fine
  if d = 0 then misuse 1 ("invalid Zero increment value: " ++ literal (numbers.getD 1 ""))
  let count := if 0 < d then (if z < a then 0 else ((z - a) / d).toNat + 1) else (if a < z then 0 else ((a - z) / -d).toNat + 1)
  let a := scale first places
  let d := scale step places
  let items := (List.range count).map fun (i : Nat) => withPlaces places (a + d * Int.ofNat i)
  let given := if numbers.length > 1 then (numbers.headD "").length else 0
  let width := items.foldl (fun n s => max n s.length) given
  let items := match c.value? "f" with
    | some form => items.map fun s => String.ofList (Format.print .tool form [s]).text
    | none =>
      if c.has "w" then
        items.map fun s =>
          let (sign, digits) := if s.startsWith "-" then (['-'], s.toList.drop 1) else ([], s.toList)
          String.ofList (sign ++ List.replicate (width - s.length) '0' ++ digits)
      else items
  if !items.isEmpty then
    say (((c.value? "s").getD "\n").intercalate items ++ "\n")
  return 0

/-- prints a line again and again until nobody reads any more -/
def yes (args : List String) : Tooling Nat := do
  let line := if args.isEmpty then "y" else " ".intercalate args
  say (String.join (List.replicate 5000 (line ++ "\n")))
  throw (.signal 13)

end Benchwork.Shell.Tool
