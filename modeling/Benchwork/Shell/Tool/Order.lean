/-
Tools for lines in order.

Lines are sorted by keys, which are parts of a line compared as text or as numbers. Lines that follow each other and are
the same are counted or dropped, and two sorted files are compared.
-/
import Benchwork.Number.Binary
import Benchwork.Shell.Tool.Lines

namespace Benchwork.Shell.Tool

open Benchwork.Text Tooling

/-! ## Sorting -/

/-- what is compared of a line, and how -/
structure SortKey where
  first : Nat := 1
  firstChar : Nat := 1
  last : Option Nat := none
  lastChar : Nat := 0
  letters : List Char := []

/-- a number with up to twenty places, times ten to the twentieth -/
def sortNumber (cs : List Char) : Int :=
  let cs := cs.dropWhile isBlankChar
  let (negative, cs) := match cs with
    | '-' :: rest => (true, rest)
    | _ => (false, cs)
  let whole := cs.takeWhile Char.isDigit
  let places := match cs.dropWhile Char.isDigit with
    | '.' :: rest => (rest.takeWhile Char.isDigit).take 20
    | _ => []
  let n : Int := Number.digitsValue (whole ++ places ++ List.replicate (20 - places.length) '0')
  if negative then -n else n

/-- a number that may have an exponent: its digits, and the power of ten that they are to be taken with -/
def floatNumber? (cs : List Char) : Option (Int × Int) :=
  let cs := cs.dropWhile isBlankChar
  let (negative, cs) := match cs with
    | '-' :: rest => (true, rest)
    | '+' :: rest => (false, rest)
    | _ => (false, cs)
  let whole := cs.takeWhile Char.isDigit
  let after := cs.dropWhile Char.isDigit
  let (places, after) := match after with
    | '.' :: rest => (rest.takeWhile Char.isDigit, rest.dropWhile Char.isDigit)
    | _ => ([], after)
  let exponent : Int := match after with
    | e :: rest =>
      if e = 'e' || e = 'E' then
        match rest with
        | '-' :: ds => -(Number.digitsValue (ds.takeWhile Char.isDigit) : Int)
        | '+' :: ds => Number.digitsValue (ds.takeWhile Char.isDigit)
        | ds => Number.digitsValue (ds.takeWhile Char.isDigit)
      else 0
    | [] => 0
  if whole.isEmpty && places.isEmpty then none
  else
    let n : Int := Number.digitsValue (whole ++ places)
    some (if negative then -n else n, max (-5000) (min 5000 exponent) - places.length)

/-- compares numbers with exponents; what is no number comes first -/
def compareFloats (a b : List Char) : Ordering :=
  match floatNumber? a, floatNumber? b with
  | none, none => .eq
  | none, some _ => .lt
  | some _, none => .gt
  | some (m, e), some (n, f) =>
    let low := min e f
    compare (m * (Number.tenTo (e - low).toNat : Int)) (n * (Number.tenTo (f - low).toNat : Int))

/-- the rank of the unit that follows a number, which counts the other way for a number below zero -/
def unitRank (cs : List Char) : Int :=
  let cs := cs.dropWhile isBlankChar
  let negative := cs.head? = some '-'
  let after := (if negative then cs.drop 1 else cs).dropWhile fun c => c.isDigit || c = '.'
  let rank : Int := match after with
    | c :: _ => if c = 'k' then 1 else ("KMGTPEZYRQ".toList.idxOf? c).elim 0 (· + 1)
    | [] => 0
  if sortNumber cs = 0 then 0 else if negative then -rank - 1 else rank + 1

/-- the number of the month that a text begins with -/
def monthNumber (cs : List Char) : Nat :=
  let name := String.ofList (((cs.dropWhile isBlankChar).take 3).map Char.toUpper)
  (["JAN", "FEB", "MAR", "APR", "MAY", "JUN", "JUL", "AUG", "SEP", "OCT", "NOV", "DEC"].idxOf? name).elim 0 (· + 1)

/-! ## Versions -/

/-- the rank of a character in a version: nothing comes after a tilde and before a digit -/
def versionRank (c : Option Char) : Int :=
  match c with
  | none => -1
  | some c => if c.isDigit then 0 else if c.isAlpha then c.toNat else if c = '~' then -2 else c.toNat + 256

/-- compares versions: texts by their characters, and numbers by their values -/
def compareVersions (fuel : Nat) (a b : List Char) : Ordering :=
  match fuel with
  | 0 => .eq
  | fuel + 1 =>
    if a.isEmpty && b.isEmpty then .eq
    else if a.head?.any (!·.isDigit) || b.head?.any (!·.isDigit) then
      (compare (versionRank a.head?) (versionRank b.head?)).then (compareVersions fuel (a.drop 1) (b.drop 1))
    else
      let number := fun (cs : List Char) => Number.digitsValue (cs.takeWhile Char.isDigit)
      (compare (number a) (number b)).then
        (compareVersions fuel (a.dropWhile Char.isDigit) (b.dropWhile Char.isDigit))

/-- the endings of a file name, such as `.tar.gz`, at the end of a text -/
def isEnding (fuel : Nat) (cs : List Char) : Bool :=
  match fuel, cs with
  | 0, _ => false
  | _, [] => true
  | fuel + 1, '.' :: c :: rest =>
    (c.isAlpha || c = '~') && isEnding fuel (rest.dropWhile fun d => d.isAlphanum || d = '~')
  | _, _ => false

/-- a name without its endings; one character stays in any case -/
def versionStem (cs : List Char) : List Char :=
  let long := (List.range (cs.length + 1)).find? fun n => n ≥ 1 && isEnding cs.length.succ (cs.drop n)
  cs.take (long.getD cs.length)

/-- compares names with versions: first without their endings -/
def compareNames (a b : List Char) : Ordering :=
  let fuel := a.length + b.length + 1
  match a, b with
  | [], [] => .eq
  | [], _ => .lt
  | _, [] => .gt
  | '.' :: _, x :: _ =>
    if x ≠ '.' then .lt
    else (compareVersions fuel (versionStem a) (versionStem b)).then (compareVersions fuel a b)
  | _, '.' :: _ => .gt
  | _, _ => (compareVersions fuel (versionStem a) (versionStem b)).then (compareVersions fuel a b)

/-! ## Keys -/

/-- a position such as `2`, `2.3` or `2.3n` -/
def sortPosition? (cs : List Char) : Option (Nat × Option Nat × List Char) :=
  let digits := cs.takeWhile Char.isDigit
  if digits.isEmpty then none
  else
    match cs.dropWhile Char.isDigit with
    | '.' :: rest =>
      let chars := rest.takeWhile Char.isDigit
      some (Number.digitsValue digits, some (Number.digitsValue chars), rest.dropWhile Char.isDigit)
    | rest => some (Number.digitsValue digits, none, rest)

def sortKey? (s : String) : Option SortKey := do
  let good := fun (letters : List Char) => letters.all "bdfghiMnRrV".toList.contains
  let cs := s.toList
  let start := cs.takeWhile (· ≠ ',')
  let (first, firstChar, letters) ← sortPosition? start
  if first = 0 || firstChar = some 0 || !good letters then none
  else
    match cs.dropWhile (· ≠ ',') with
    | _ :: stop => do
      let (last, lastChar, more) ← sortPosition? stop
      if last = 0 || !good more then none
      else
        return { first, firstChar := firstChar.getD 1, last := some last, lastChar := lastChar.getD 0
                 letters := letters ++ more }
    | [] => return { first, firstChar := firstChar.getD 1, letters }

/-- the fields of a line: between separators, or runs of blanks with the text that follows -/
def sortFields (separator : Option Char) (line : List Char) : List (List Char) :=
  match separator with
  | some s => line.splitOn s
  | none =>
    (line.foldr (fun c (acc : List (List Char)) =>
      match acc with
      | [] => [[c]]
      | field :: rest =>
        if isBlankChar c || !((field.head?.map isBlankChar).getD false) then (c :: field) :: rest
        else [c] :: field :: rest) [])

/-- the part of a line that a key compares -/
def keyText (separator : Option Char) (k : SortKey) (line : List Char) : List Char :=
  let fields := sortFields separator line
  let glue : List Char := separator.toList
  let join := fun (fs : List (List Char)) => List.flatten (fs.intersperse glue)
  let trim := fun (cs : List Char) => if k.letters.contains 'b' then cs.dropWhile isBlankChar else cs
  match k.last with
  | none =>
    let body := fields.drop (k.first - 1)
    (trim (join body)).drop (k.firstChar - 1)
  | some last =>
    let whole := if k.lastChar = 0 then last else last - 1
    let before := (fields.take whole).drop (k.first - 1)
    let extra := if k.lastChar = 0 then [] else [((fields.drop (last - 1)).headD []).take k.lastChar]
    (trim (join (before ++ extra))).drop (k.firstChar - 1)

/-- compares two texts as letters ask -/
def compareBy (letters : List Char) (a b : List Char) : Ordering :=
  let prepare := fun (cs : List Char) =>
    let cs := if letters.contains 'd' then cs.filter fun c => c.isAlphanum || isBlankChar c else cs
    let cs := if letters.contains 'i' then cs.filter fun c => ' ' ≤ c && c ≤ '~' else cs
    if letters.contains 'f' then cs.map Char.toUpper else cs
  if letters.contains 'n' then compare (sortNumber a) (sortNumber b)
  else if letters.contains 'g' then compareFloats a b
  else if letters.contains 'h' then (compare (unitRank a) (unitRank b)).then (compare (sortNumber a) (sortNumber b))
  else if letters.contains 'M' then compare (monthNumber a) (monthNumber b)
  else if letters.contains 'V' then compareNames (prepare a) (prepare b)
  else compare (String.ofList (prepare a)) (String.ofList (prepare b))

/-- what is wrong with a key -/
def keyMistake (s : String) : String :=
  let wrong := fun (what : String) => what ++ ": invalid field specification " ++ literal s
  let parts := s.toList.splitOn ','
  match parts.map sortPosition? with
  | none :: _ => "invalid number at field start: invalid count at start of " ++ literal s
  | [_, none] => "invalid number after ',': invalid count at start of " ++
      literal (String.ofList ((s.toList.dropWhile (· ≠ ',')).drop 1))
  | some (0, _, _) :: _ => wrong "field number is zero"
  | some (_, some 0, _) :: _ => wrong "character offset is zero"
  | _ => wrong "stray character in field spec"

/-- merges lists that are in order: the smallest head comes first, of equal ones that of the earlier list -/
def mergeAll (isBefore : List Char → List Char → Bool) (fuel : Nat) (lists : List (List (List Char))) : List (List Char) :=
  match fuel with
  | 0 => []
  | fuel + 1 =>
    let lists := lists.filter (· ≠ [])
    let heads := lists.zipIdx.filterMap fun (l, i) => l.head?.map fun x => (x, i)
    match heads with
    | [] => []
    | first :: rest =>
      let (x, i) := rest.foldl (fun best e => if isBefore e.1 best.1 then e else best) first
      x :: mergeAll isBefore fuel (lists.modify i (·.drop 1))

def sortSwitches : List Switch :=
  [⟨"b", ["ignore-leading-blanks"], false⟩, ⟨"d", ["dictionary-order"], false⟩, ⟨"f", ["ignore-case"], false⟩,
   ⟨"g", ["general-numeric-sort"], false⟩, ⟨"h", ["human-numeric-sort"], false⟩, ⟨"i", ["ignore-nonprinting"], false⟩,
   ⟨"M", ["month-sort"], false⟩, ⟨"n", ["numeric-sort"], false⟩, ⟨"r", ["reverse"], false⟩, ⟨"u", ["unique"], false⟩,
   ⟨"s", ["stable"], false⟩, ⟨"c", ["check"], false⟩, ⟨"C", [], false⟩, ⟨"m", ["merge"], false⟩,
   ⟨"V", ["version-sort"], false⟩, ⟨"z", ["zero-terminated"], false⟩, ⟨"k", ["key"], true⟩,
   ⟨"t", ["field-separator"], true⟩, ⟨"o", ["output"], true⟩, ⟨"S", ["buffer-size"], true⟩,
   ⟨"T", ["temporary-directory"], true⟩, ⟨"parallel", ["parallel"], true⟩]

def sort (args : List String) : Tooling Nat := do
  let c ← choices 2 sortSwitches args
  let separator ← match c.value? "t" with
    | none => pure none
    | some "" => do
      complain "empty tab"
      quit 2
    | some "\\0" => pure (some (Char.ofNat 0))
    | some t => do
      if t.length > 1 then
        complain ("multi-character tab " ++ literal t)
        quit 2
      pure t.toList.head?
  let mut keys : List SortKey := []
  for (k, v) in c.given do
    if k = "k" then
      match sortKey? v with
      | some key => keys := keys ++ [key]
      | none => do
        complain (keyMistake v)
        quit 2
  let mark := if c.has "z" then Char.ofNat 0 else '\n'
  let mut files : List (List (List Char)) := []
  for name in (if c.operands.isEmpty then ["-"] else c.operands) do
    match ← input name with
    | .ok bytes => files := files ++ [piecesOf mark (Octets.ofBytes bytes).toList]
    | .error .isDirectory => do
      complain ("read failed: " ++ nameShown name ++ ": Is a directory")
      quit 2
    | .error e => do
      complain ("cannot read: " ++ nameShown name ++ ": " ++ e.description)
      quit 2
  let letters := (c.given.filterMap fun o => if o.2 = "" && o.1.length = 1 then o.1.toList.head? else none)
  let compareKeys := fun (a b : List Char) =>
    if keys.isEmpty then
      let r := compareBy letters (if letters.contains 'b' then a.dropWhile isBlankChar else a)
        (if letters.contains 'b' then b.dropWhile isBlankChar else b)
      if letters.contains 'r' then r.swap else r
    else
      keys.foldl (fun r k =>
        let used := if k.letters.isEmpty then letters else k.letters
        let text := keyText separator { k with letters := used }
        let next := compareBy used (text a) (text b)
        r.then (if used.contains 'r' then next.swap else next)) .eq
  let lastResort := fun (a b : List Char) =>
    let r := compare (String.ofList a) (String.ofList b)
    if letters.contains 'r' then r.swap else r
  let compareAll := fun (a b : List Char) =>
    if c.has "s" || c.has "u" then compareKeys a b else (compareKeys a b).then (lastResort a b)
  let texts := files.flatten
  if c.has "c" || c.has "C" then
    let pairs := texts.zip (texts.drop 1)
    let wrong := fun (p : List Char × List Char) =>
      let r := compareAll p.1 p.2
      r = .gt || (c.has "u" && r = .eq)
    match (pairs.zipIdx).find? fun e => wrong e.1 with
    | some ((_, b), i) => do
      if c.has "c" then
        complain (c.operands.headD "-" ++ ":" ++ toString (i + 2) ++ ": disorder: " ++ String.ofList b)
      return 1
    | none => return 0
  let sorted := if c.has "m" then mergeAll (fun a b => compareAll a b == .lt) (texts.length + 1) files
    else texts.mergeSort fun a b => compareAll a b != .gt
  let sorted := if c.has "u" then
      (sorted.foldl (fun (acc : List (List Char)) l =>
        match acc with
        | last :: _ => if compareKeys last l = .eq then acc else l :: acc
        | [] => [l]) []).reverse
    else sorted
  let shown := String.ofList (sorted.flatMap (· ++ [mark]))
  match c.value? "o" with
  | some name => do
    match ← change fun fs => fs.write (Process.pathOf name) (Octets.toBytes shown) with
    | none => return 0
    | some e => do
      complain ("open failed: " ++ nameShown name ++ ": " ++ e.description)
      return 2
  | none => do
    say shown
    return 0

/-! ## Neighbours -/

/-- runs of lines that are the same by a key -/
def runsOf (key : List Char → List Char) (lines : List (List Char)) : List (List Char × Nat) :=
  (lines.foldl (fun (acc : List (List Char × Nat)) l =>
    match acc with
    | (first, n) :: rest => if key first = key l then (first, n + 1) :: rest else (l, 1) :: acc
    | [] => [(l, 1)]) []).reverse

/-- a text as the end of a run of lines is shown, or written to a file -/
def deliver (name : Option String) (text : String) : Tooling Nat := do
  match name with
  | some name => do
    match ← change fun fs => fs.write (Process.pathOf name) (Octets.toBytes text) with
    | none => return 0
    | some e => do
      nameFault name e
      return 1
  | none => do
    say text
    return 0

def uniq (args : List String) : Tooling Nat := do
  let c ← choices 1
    [⟨"c", ["count"], false⟩, ⟨"d", ["repeated"], false⟩, ⟨"u", ["unique"], false⟩, ⟨"i", ["ignore-case"], false⟩,
     ⟨"D", ["all-repeated"], false⟩, ⟨"group", ["group"], false⟩, ⟨"z", ["zero-terminated"], false⟩,
     ⟨"f", ["skip-fields"], true⟩, ⟨"s", ["skip-chars"], true⟩, ⟨"w", ["check-chars"], true⟩] args
  if c.operands.length > 2 then misuse 1 ("extra operand " ++ literal (c.operands.getD 2 ""))
  let (texts, good) ← inputs (c.operands.take 1) nameFault
  if !good then quit 1
  let number := fun (k : String) => (c.value? k).bind String.toNat?
  let skipField := fun (cs : List Char) => (cs.dropWhile isBlankChar).dropWhile fun ch => !isBlankChar ch
  let key := fun (l : List Char) =>
    let l := (List.range ((number "f").getD 0)).foldl (fun cs _ => skipField cs) l
    let l := l.drop ((number "s").getD 0)
    let l := match number "w" with
      | some n => l.take n
      | none => l
    if c.has "i" then l.map Char.toLower else l
  let mark := if c.has "z" then Char.ofNat 0 else '\n'
  let lines := piecesOf mark (texts.map (·.2)).flatten
  let runs := runsOf key lines
  let name := (c.operands.drop 1).head?
  let ended := fun (ls : List (List Char)) => String.ofList (ls.flatMap (· ++ [mark]))
  let members := (runs.foldl (fun (acc : List (List (List Char)) × List (List Char)) r =>
    (acc.1 ++ [acc.2.take r.2], acc.2.drop r.2)) ([], lines)).1
  if c.has "group" then deliver name (String.intercalate (String.ofList [mark]) (members.map ended))
  else if c.has "D" then deliver name (String.join ((members.filter (·.length > 1)).map ended))
  else
    let kept := runs.filter fun r => (!c.has "d" || r.2 > 1) && (!c.has "u" || r.2 = 1)
    deliver name (ended (kept.map fun r =>
      if c.has "c" then (padLeft 7 (toString r.2)).toList ++ ' ' :: r.1 else r.1))

/-! ## Two sorted files -/

/-- lines that only the first, only the second or both of two sorted files have -/
def merge (fuel : Nat) (a b : List (List Char)) : List (Nat × List Char) :=
  match fuel, a, b with
  | 0, _, _ => []
  | _, [], _ => b.map (2, ·)
  | _, _, [] => a.map (1, ·)
  | fuel + 1, x :: xs, y :: ys =>
    match compare (String.ofList x) (String.ofList y) with
    | .lt => (1, x) :: merge fuel xs b
    | .gt => (2, y) :: merge fuel a ys
    | .eq => (3, x) :: merge fuel xs ys

/-- the lines are in order -/
def isSorted (lines : List (List Char)) : Bool :=
  (lines.zip (lines.drop 1)).all fun (a, b) => compare (String.ofList a) (String.ofList b) != .gt

def comm (args : List String) : Tooling Nat := do
  let c ← choices 1
    (plainSwitches "123" ++ [⟨"z", ["zero-terminated"], false⟩, ⟨"output-delimiter", ["output-delimiter"], true⟩,
      ⟨"total", ["total"], false⟩, ⟨"check-order", ["check-order"], false⟩,
      ⟨"nocheck-order", ["nocheck-order"], false⟩]) args
  match c.operands with
  | [a, b] => do
    let (texts, good) ← inputs [a, b] nameFault
    if !good then quit 1
    let mark := if c.has "z" then Char.ofNat 0 else '\n'
    let lines := texts.map fun t => piecesOf mark t.2
    let first := lines.headD []
    let second := (lines.drop 1).headD []
    let columns := ["1", "2", "3"].filter fun k => !c.has k
    let glue := ((c.value? "output-delimiter").getD "\t").toList
    let merged := merge (first.length + second.length + 1) first second
    for (n, line) in merged do
      let k := toString n
      if !c.has k then
        let before := (columns.filter fun other => decide (other < k)).length
        say (String.ofList ((List.replicate before glue).flatten ++ line ++ [mark]))
    if c.has "total" then
      let count := fun (n : Nat) => toString ((merged.filter (·.1 = n)).length)
      say ((String.ofList glue).intercalate [count 1, count 2, count 3, "total"] ++ String.ofList [mark])
    let wrong := (if isSorted first then [] else ["1"]) ++ (if isSorted second then [] else ["2"])
    if !wrong.isEmpty && !c.has "nocheck-order" && first ≠ second then
      for n in wrong do
        complain ("file " ++ n ++ " is not in sorted order")
      complain "input is not in sorted order"
      return 1
    return 0
  | [a] => misuse 1 ("missing operand after " ++ literal a)
  | [] => misuse 1 "missing operand"
  | _ :: _ :: x :: _ => misuse 1 ("extra operand " ++ literal x)

/-- how lines of two files are joined -/
structure JoinOrder where
  separator : Option Char
  fold : Bool
  fields : Nat × Nat
  /-- what stands for a field that is not there -/
  missing : List Char
  /-- the fields that are shown: of which file, 0 for the common one, and which -/
  shown : Option (List (Nat × Nat))

namespace JoinOrder

def fieldsOf (o : JoinOrder) (line : List Char) : List (List Char) :=
  match o.separator with
  | some s => line.splitOn s
  | none => (line.splitBy fun a b => isBlankChar a == isBlankChar b).filter fun w => !(w.head?.any isBlankChar)

/-- the field that lines are joined by -/
def keyOf (o : JoinOrder) (n : Nat) (fields : List (List Char)) : List Char :=
  let key := fields.getD (n - 1) []
  if o.fold then key.map Char.toLower else key

/-- a line of fields of one or both files -/
def render (o : JoinOrder) (a b : Option (List (List Char))) : List Char :=
  let glue := [o.separator.getD ' ']
  let rest := fun (n : Nat) (fs : Option (List (List Char))) => (fs.getD []).eraseIdx (n - 1)
  let key := match a, b with
    | some fs, _ => fs.getD (o.fields.1 - 1) []
    | none, some fs => fs.getD (o.fields.2 - 1) []
    | none, none => []
  let fields := match o.shown with
    | none => key :: rest o.fields.1 a ++ rest o.fields.2 b
    | some places => places.map fun (file, n) =>
      let text := if file = 0 then key else ((if file = 1 then a else b).getD []).getD (n - 1) []
      if text.isEmpty then o.missing else text
  List.flatten (fields.intersperse glue)

/-- pairs of lines with the same key, and lines that have no partner -/
def pairs (o : JoinOrder) (fuel : Nat) (a b : List (List (List Char))) :
    List (Option (List (List Char)) × Option (List (List Char))) :=
  match fuel, a, b with
  | 0, _, _ => []
  | _, [], _ => b.map (none, some ·)
  | _, _, [] => a.map (some ·, none)
  | fuel + 1, x :: xs, y :: ys =>
    let key := o.keyOf o.fields.1 x
    match compare (String.ofList key) (String.ofList (o.keyOf o.fields.2 y)) with
    | .lt => (some x, none) :: pairs o fuel xs b
    | .gt => (none, some y) :: pairs o fuel a ys
    | .eq =>
      let same := a.takeWhile fun l => o.keyOf o.fields.1 l = key
      let others := b.takeWhile fun l => o.keyOf o.fields.2 l = key
      (same.flatMap fun l => others.map fun m => (some l, some m)) ++
        pairs o fuel (a.drop same.length) (b.drop others.length)

end JoinOrder

/-- joins the lines of two sorted files that have a field in common -/
def join (args : List String) : Tooling Nat := do
  let c ← choices 1
    [⟨"1", [], true⟩, ⟨"2", [], true⟩, ⟨"j", [], true⟩, ⟨"a", [], true⟩, ⟨"v", [], true⟩, ⟨"e", [], true⟩,
     ⟨"o", [], true⟩, ⟨"t", [], true⟩, ⟨"i", ["ignore-case"], false⟩, ⟨"header", ["header"], false⟩,
     ⟨"check-order", ["check-order"], false⟩, ⟨"nocheck-order", ["nocheck-order"], false⟩] args
  match c.operands with
  | [a, b] => do
    let mut files : List (List (List Char)) := []
    for name in [a, b] do
      match ← input name with
      | .ok bytes => files := files ++ [linesOf (Octets.ofBytes bytes).toList]
      | .error e => do
        nameFault name e
        quit 1
    let number := fun (k : String) => ((c.value? k).bind String.toNat?).getD (((c.value? "j").bind String.toNat?).getD 1)
    let place := fun (cs : List Char) =>
      if cs = ['0'] then some (0, 0)
      else
        match cs with
        | f :: '.' :: digits => (Number.digits? digits).map fun n => (f.toNat - 48, n)
        | _ => none
    let order : JoinOrder :=
      { separator := (c.value? "t").bind (·.toList.head?), fold := c.has "i", fields := (number "1", number "2")
        missing := ((c.value? "e").getD "").toList
        shown := (c.value? "o").bind fun s =>
          if s = "auto" then none
          else (((s.toList.splitBy fun x y => x ≠ ',' && x ≠ ' ' && y ≠ ',' && y ≠ ' ').filter
            fun w => w ≠ [','] && w ≠ [' ']).mapM place) }
    let wants := fun (k n : String) => c.given.any fun o => o.1 = k && o.2 = n
    let both := !c.given.any (·.1 = "v")
    let lines := files.map fun ls => ls.map order.fieldsOf
    let first := lines.headD []
    let second := (lines.drop 1).headD []
    let (head, first, second) := if c.has "header" then ([(first.head?, second.head?)], first.drop 1, second.drop 1)
      else ([], first, second)
    for p in head ++ order.pairs (first.length + second.length + 1) first second do
      let isShown := match p with
        | (some _, some _) => both
        | (some _, none) => wants "a" "1" || wants "v" "1"
        | _ => wants "a" "2" || wants "v" "2"
      if isShown then say (String.ofList (order.render p.1 p.2 ++ ['\n']))
    return 0
  | [a] => misuse 1 ("missing operand after " ++ literal a)
  | [] => misuse 1 "missing operand"
  | _ :: _ :: x :: _ => misuse 1 ("extra operand " ++ literal x)

end Benchwork.Shell.Tool
