/-
What words stand for.

Parameters, outputs and sums are put in their places, and the text that came from outside quotes is cut into fields at the
separators. A field with pattern characters stands for the names of the files that it fits. Where a single text is
wanted, nothing is cut.

What a script in a word prints is found by a function given from outside.
-/
import Benchwork.Shell.Brace
import Benchwork.Shell.State

namespace Benchwork.Shell

open Benchwork.Text

/-! ## Fields -/

/-- a word being cut into fields, in reverse -/
structure Fields where
  complete : List (List Symbol) := []
  /-- the field being put together -/
  current : Option (List Symbol) := none
  /-- the last field was ended by a blank, which another separator may follow -/
  afterBlank : Bool := false

namespace Fields

/-- adds text to the field being put together, and begins one if there is none -/
def add (f : Fields) (quoted : Bool) (cs : List Char) : Fields :=
  { f with current := some ((symbols quoted cs).reverse ++ f.current.getD []), afterBlank := false }

/-- ends the field being put together -/
def close (f : Fields) : Fields :=
  match f.current with
  | some field => { f with complete := field.reverse :: f.complete, current := none }
  | none => f

/-- adds text that separators cut -/
def addCut (f : Fields) (separators : List Char) : List Char → Fields
  | [] => f
  | c :: rest =>
    let next :=
      if !separators.contains c then f.add false [c]
      else if c = ' ' || c = '\t' || c = '\n' then
        { f.close with afterBlank := f.afterBlank || f.current.isSome }
      else if f.current.isSome then { f.close with afterBlank := false }
      else if f.afterBlank then { f with afterBlank := false }
      else { f with complete := [] :: f.complete }
    next.addCut separators rest

/-- all fields in order -/
def toList (f : Fields) : List (List Symbol) := f.close.complete.reverse

end Fields

/-- the characters that cut text into fields -/
def separatorsOf (f : Frame) : List Char :=
  match (f.lookup? "IFS").bind (·.value) with
  | some v => (v.text?.getD "").toList
  | none => [' ', '\t', '\n']

/-! ## File names -/

namespace Glob

/-- the text that marks without a choice stand for -/
def literal (marks : List PatternMark) : String :=
  String.ofList (marks.filterMap fun
    | .exactly c => some c
    | _ => none)

/-- how names are found -/
structure Manner where
  pattern : Pattern.Manner := {}
  /-- the names of a directory and of the one above it are found too -/
  dots : Bool := false
  /-- hidden names are found without a dot in the pattern -/
  hidden : Bool := false
  /-- two stars stand for directories at any depth -/
  deep : Bool := false

/-- the manner of a shell -/
def mannerOf (f : Frame) : Manner :=
  let on := fun (switch : String) => f.switches.contains switch
  { pattern := { caret := f.dialect = .extended, groups := on "extglob", fold := on "nocaseglob" }
    dots := f.dialect = .plain, hidden := on "dotglob", deep := on "globstar" }

/-- the names in a directory that a pattern can stand for -/
def candidates (m : Manner) (fs : FileStore) (base : String) : List String :=
  let listed := (fs.entries (Process.pathOf (if base = "" then "." else base))).toOption.getD []
  (if m.dots then [".", ".."] else []) ++ listed.map Octets.ofBytes

/-- a pattern begins with a dot -/
def startsWithDot : List PatternMark → Bool
  | .exactly '.' :: _ => true
  | _ => false

/-- the directories below `base` and itself, each with a slash at its end -/
def below (m : Manner) (fs : FileStore) (depth : Nat) (base : String) : List String :=
  match depth with
  | 0 => [base]
  | depth + 1 =>
    let inner := (candidates { m with dots := false } fs base).filter fun n =>
      (m.hidden || !n.startsWith ".") &&
        (match fs.node .itself (Process.pathOf (base ++ n)) with
          | .ok (.dir _) => true
          | _ => false)
    base :: inner.flatMap fun n => below m fs depth (base ++ n ++ "/")

/-- how deep directories are looked through -/
def depthLimit : Nat := 100

/-- two stars outside quotes -/
def isDeep (m : Manner) (name : List Symbol) : Bool :=
  m.deep && name.map (·.char) = ['*', '*'] && name.all (!·.quoted)

/-- the paths that begin with `base` and go on as the names of a pattern say -/
def paths (m : Manner) (fs : FileStore) (base : String) : List (List Symbol) → List String
  | [] => if (fs.node .itself (Process.pathOf base)).isOk then [base] else []
  | name :: rest =>
    let marks := Pattern.ofSymbols m.pattern name
    let tail := if rest.isEmpty then "" else "/"
    if isDeep m name then
      let dirs := below m fs depthLimit base
      if rest.isEmpty then
        dirs.flatMap fun d =>
          (if d = "" then [] else [d]) ++
            ((candidates m fs d).filter fun n => (m.hidden || !n.startsWith ".") &&
              (match fs.node .itself (Process.pathOf (d ++ n)) with
                | .ok (.dir _) => false
                | _ => true)).map (d ++ ·)
      else dirs.flatMap fun d => if d = base && rest = [[]] then [] else paths m fs d rest
    else if Pattern.isOpen marks then
      let fits := (candidates m fs base).filter fun n =>
        (!n.startsWith "." || startsWithDot marks || (m.hidden && n ≠ "." && n ≠ "..")) &&
          Pattern.matchesAll marks n.toList
      fits.flatMap fun n => paths m fs (base ++ n ++ tail) rest
    else paths m fs (base ++ literal marks ++ tail) rest

/-- the names of the files that a field fits; nothing if it is no pattern -/
def expand (m : Manner) (fs : FileStore) (field : List Symbol) : Option (List String) :=
  let isSlash := fun (s : Symbol) => s.char = '/'
  let names := field.splitOnP isSlash
  if names.any fun n => Pattern.isOpen (Pattern.ofSymbols m.pattern n) then
    some ((paths m fs "" names).mergeSort fun a b => decide (a ≤ b))
  else none

end Glob

/-! ## Home directories -/

/-- the home directory of a user -/
def homeOf (f : Frame) (user : List Char) : Option String :=
  match String.ofList user with
  | "" =>
    match ((f.lookup? "HOME").bind (·.value)).bind Value.text?, f.dialect with
    | none, .extended => some "/root"
    | home, _ => home
  | "root" => some "/root"
  | "+" => if f.dialect = .extended then ((f.lookup? "PWD").bind (·.value)).bind Value.text? else none
  | "-" => if f.dialect = .extended then ((f.lookup? "OLDPWD").bind (·.value)).bind Value.text? else none
  | _ => none

/-- replaces a tilde at the start of a word; in a list of paths each of them can begin with one -/
def expandTilde (f : Frame) (stops : List Char) (w : Word) : Word :=
  match w with
  | .text ('~' :: cs) false :: rest =>
    let user := cs.takeWhile fun c => !stops.contains c
    let left := cs.dropWhile fun c => !stops.contains c
    if left.isEmpty && !rest.isEmpty then w
    else
      match homeOf f user with
      | some home => .text home.toList true :: (if left.isEmpty then rest else .text left false :: rest)
      | none => w
  | _ => w

/-- replaces the tildes of an assigned value, which can stand after every colon too -/
def expandTildes (f : Frame) (w : Word) : Word :=
  match w with
  | .text cs false :: rest =>
    if cs.contains '~' then
      let whole := rest.isEmpty
      let all := cs.splitOn ':'
      let count := all.length
      let words := all.zipIdx.map fun (piece, i) =>
        if i + 1 < count || whole then expandTilde f ['/'] [.text piece false] else [.text piece false]
      List.flatten (words.intersperse [.text [':'] false]) ++ rest
    else w
  | _ => w

/-! ## Parameters -/

/-- the values that a parameter stands for -/
structure Found where
  values : List String
  /-- several values, or one text -/
  isMany : Bool := false
  /-- in quotes several values are one text -/
  isJoined : Bool := false
  isSet : Bool := true

namespace Expansion

/-- what makes scripts in words work, and whether text is cut into fields -/
structure Setting where
  output : Script → Running String
  stream : Script → Running String
  cut : Bool := true

/-- the status of a shell that gives up because a parameter has no value -/
def unsetStatus (f : Frame) : Nat :=
  match f.dialect with
  | .plain => 2
  | .extended => if f.isInline then 127 else 1

/-- complains about a parameter and gives up -/
def refuse {α : Type} (message : String) : Running α := do
  Running.complain message
  throw (.fault (unsetStatus (← Running.frame)))

/-- works out an expression -/
def calculate (source : String) : Running Int := do
  let s ← get
  let f := s.frame
  let valueOf := fun (name : String) => (f.lookup? name).bind (·.value)
  let isTable := fun (name : String) =>
    match valueOf name with
    | some (.table _) => true
    | _ => false
  let size := fun (name : String) => (((valueOf name).bind fun v => v.items.getLast?).map (·.1 + 1)).getD 0
  let strict := f.dialect = .extended && f.switches.contains "nounset"
  match Arithmetic.evaluate { dialect := f.dialect, source := source.toList, lookup := s.parameter?, isTable, size, strict } with
  | .ok (n, settings) => do
    for (name, value) in settings do
      Running.assign name (toString value)
    return n
  | .error (.unset name) => refuse (name ++ ": unbound variable")
  | .error (.other message) => Running.fail message

/-- how a shell reads patterns -/
def patternManner : Running Pattern.Manner := do
  let f ← Running.frame
  let on := fun (switch : String) => f.switches.contains switch
  return { caret := f.dialect = .extended, groups := on "extglob", fold := on "nocasematch" }

/-- adds values to fields -/
def addFound (cut quoted : Bool) (fields : Fields) (found : Found) : Running Fields := do
  let separators := separatorsOf (← Running.frame)
  let glue := if found.isJoined then (separators.head?.map fun c => String.ofList [c]).getD "" else " "
  if !found.isMany then
    let text := (found.values.headD "").toList
    if quoted || !cut then
      return if text.isEmpty && !quoted then fields else fields.add quoted text
    else return fields.addCut separators text
  else if !cut then
    return if found.values.isEmpty then fields else fields.add quoted (glue.intercalate found.values).toList
  else if quoted then
    if found.isJoined then return fields.add true (glue.intercalate found.values).toList
    else
      match found.values with
      | [] => return fields
      | first :: rest => return rest.foldl (fun f v => f.close.add true v.toList) (fields.add true first.toList)
  else
    match found.values with
    | [] => return fields
    | first :: rest =>
      return rest.foldl (fun f v => f.close.addCut separators v.toList) (fields.addCut separators first.toList)

/-- a text in single quotes -/
def inQuotes (s : String) : String :=
  "'" ++ "'\\''".intercalate ((s.toList.splitOn '\'').map String.ofList) ++ "'"

/-- part of a list from a place on; a place before the start counts from the end -/
def slice {α : Type} (items : List α) (start : Int) (size : Option Int) : List α :=
  let place : Int := if start < 0 then items.length + start else start
  if place < 0 then []
  else
    let rest := items.drop place.toNat
    match size with
    | none => rest
    | some n => if n < 0 then rest.take (rest.length + n).toNat else rest.take n.toNat

def recase (upper all : Bool) (s : String) : String :=
  let change := fun (c : Char) => if upper then c.toUpper else c.toLower
  match s.toList with
  | [] => ""
  | c :: rest => String.ofList (change c :: (if all then rest.map change else rest))

/-- the whole list that an index stands for, joined or not -/
def wholeIndex? : Option Word → Option Bool
  | some [.text ['@'] _] => some false
  | some [.text ['*'] _] => some true
  | _ => none

mutual

/-- adds the parts of a word to fields -/
def addParts (setting : Setting) (fuel : Nat) (fields : Fields) : List Part → Running Fields
  | [] => return fields
  | part :: rest => do
    match fuel with
    | 0 => throw (.finish (.signal 11))
    | fuel + 1 =>
      let fields ←
        match part with
        | .text cs quoted => pure (if cs.isEmpty && !quoted then fields else fields.add quoted cs)
        | .parameter name index use quoted => addParameter setting fuel fields name index use quoted
        | .output script quoted => do
          addFound setting.cut quoted fields { values := [← setting.output script] }
        | .stream script => do
          addFound false false fields { values := [← setting.stream script] }
        | .declared setting => pure (fields.add true (assignedName setting).toList)
        | .sum expression quoted => do
          let n ← calculate (← textOf setting fuel expression)
          addFound setting.cut quoted fields { values := [toString n] }
      addParts setting fuel fields rest

/-- a word as one text, character by character -/
def symbolsOf (setting : Setting) (fuel : Nat) (w : Word) : Running (List Symbol) := do
  match fuel with
  | 0 => throw (.finish (.signal 11))
  | fuel + 1 => return (← addParts { setting with cut := false } fuel {} w).toList.flatten

/-- a word as one text -/
def textOf (setting : Setting) (fuel : Nat) (w : Word) : Running String := do
  match fuel with
  | 0 => throw (.finish (.signal 11))
  | fuel + 1 => return plainText (← symbolsOf setting fuel w)

/-- the values of a parameter -/
def find (setting : Setting) (fuel : Nat) (name : String) (index : Option Word) : Running Found := do
  match fuel with
  | 0 => throw (.finish (.signal 11))
  | fuel + 1 =>
    let f ← Running.frame
    if name = "@" || name = "*" then
      return { values := f.args, isMany := true, isJoined := name = "*", isSet := !f.args.isEmpty }
    let value := ((f.lookup? name).bind (·.value)).getD (.list [])
    let items := value.items
    match wholeIndex? index, index with
    | some joined, _ =>
      return { values := value.texts, isMany := true, isJoined := joined, isSet := !value.texts.isEmpty }
    | none, some w => do
      if let .table pairs := value then
        let key ← textOf setting fuel w
        match (pairs.find? (·.1 = key)).map (·.2) with
        | some v => return { values := [v] }
        | none => return { values := [""], isSet := false }
      let n ← calculate (← textOf setting fuel w)
      let place : Int := if n < 0 then (((items.getLast?.map (·.1)).getD 0 : Nat) : Int) + 1 + n else n
      match items.find? fun e => (e.1 : Int) = place with
      | some (_, value) => return { values := [value] }
      | none => return { values := [""], isSet := false }
    | none, none =>
      match ← Running.parameter? name with
      | some value => return { values := [value] }
      | none => return { values := [""], isSet := false }

/-- adds what is made of a parameter -/
def addParameter (setting : Setting) (fuel : Nat) (fields : Fields) (name : String) (index : Option Word) (use : Use)
    (quoted : Bool) : Running Fields := do
  match fuel with
  | 0 => throw (.finish (.signal 11))
  | fuel + 1 =>
    let found ← find setting fuel name index
    let isEmpty := found.values.all (· = "")
    let isGood := fun (orEmpty : Bool) => found.isSet && !(orEmpty && isEmpty)
    let known : Running Unit := do
      if !found.isSet && !found.isMany then
        if ← Running.isOn "nounset" then
          if ← Running.isPlain then refuse (name ++ ": parameter not set")
          else do
            let place ← match index with
              | some w => do pure ("[" ++ (← textOf setting fuel w) ++ "]")
              | none => pure ""
            refuse ((if name.all Char.isDigit then "$" ++ name else name) ++ place ++ ": unbound variable")
    let change := fun (g : String → String) => do
      known
      addFound setting.cut quoted fields { found with values := found.values.map g }
    match use with
    | .value => change id
    | .length => do
      known
      let isCount := found.isMany && !(← Running.isPlain)
      let size := if isCount then found.values.length else (" ".intercalate found.values).length
      addFound setting.cut quoted fields { values := [toString size] }
    | .fallback orEmpty w =>
      if isGood orEmpty then addFound setting.cut quoted fields found
      else if quoted && w.isEmpty then return fields.add true []
      else addParts setting fuel fields w
    | .instead orEmpty w => if isGood orEmpty then addParts setting fuel fields w else return fields
    | .assign orEmpty w =>
      if isGood orEmpty then addFound setting.cut quoted fields found
      else if found.isMany || name.all Char.isDigit || ["#", "?", "$", "!", "-"].contains name then
        if ← Running.isPlain then Running.fail (name ++ ": bad variable name")
        else Running.fail ("$" ++ name ++ ": cannot assign in this way")
      else do
        let value ← textOf setting fuel w
        Running.assign name value
        addFound setting.cut quoted fields { values := [value] }
    | .complain orEmpty w =>
      if isGood orEmpty then addFound setting.cut quoted fields found
      else do
        let text ← textOf setting fuel w
        let plain ← Running.isPlain
        let reason := if !w.isEmpty then text else if !orEmpty then "parameter not set"
          else if plain then "parameter not set or null" else "parameter null or not set"
        refuse (name ++ ": " ++ reason)
    | .cutStart longest w => do
      let marks := Pattern.ofSymbols (← patternManner) (← symbolsOf setting fuel w)
      change fun s => String.ofList (Pattern.cutStart longest marks s.toList)
    | .cutEnd longest w => do
      let marks := Pattern.ofSymbols (← patternManner) (← symbolsOf setting fuel w)
      change fun s => String.ofList (Pattern.cutEnd longest marks s.toList)
    | .replace place w new => do
      let marks := Pattern.ofSymbols (← patternManner) (← symbolsOf setting fuel w)
      let text ← textOf setting fuel new
      change fun s => String.ofList (Pattern.replace place marks text.toList s.toList)
    | .slice start size => do
      let first ← calculate (← textOf setting fuel start)
      let count ← match size with
        | some w => do pure (some (← calculate (← textOf setting fuel w)))
        | none => pure none
      if found.isMany then do
        let f ← Running.frame
        let values := if name = "@" || name = "*" then f.name :: found.values else found.values
        addFound setting.cut quoted fields { found with values := slice values first count }
      else change fun s => String.ofList (slice s.toList first count)
    | .recase upper all => change (recase upper all)
    | .shown kind =>
      match kind with
      | 'Q' => if found.isSet then change inQuotes else return fields
      | 'U' => change String.toUpper
      | 'L' => change String.toLower
      | 'u' => change (recase true false)
      | 'E' => change id
      | _ => change id
    | .names joined => do
      let f ← Running.frame
      let names := ((f.bindings.filter fun v => v.1.startsWith name && v.2.value.isSome).map (·.1)).mergeSort
        fun a b => decide (a ≤ b)
      addFound setting.cut quoted fields { values := names, isMany := true, isJoined := joined }
    | .indirect => do
      let target := found.values.headD ""
      let f ← Running.frame
      if target = "" then Running.fail (name ++ ": invalid indirect expansion")
      else if target = "@" || target = "*" then
        addFound setting.cut quoted fields { values := f.args, isMany := true, isJoined := target = "*" }
      else
        addFound setting.cut quoted fields { values := [(← Running.parameter? target).getD ""] }
    | .places => do
      let f ← Running.frame
      let keys := (((f.lookup? name).bind (·.value)).map Value.keys).getD []
      addFound setting.cut quoted fields { values := keys, isMany := true, isJoined := found.isJoined }
    | .unknown source =>
      if ← Running.isPlain then Running.fail "Bad substitution"
      else Running.fail ("$\x7b" ++ String.ofList source ++ "\x7d: bad substitution")

end

/-- the fields that a word stands for -/
def fieldsOf (setting : Setting) (fuel : Nat) (w : Word) : Running (List String) := do
  let f ← Running.frame
  let words := if f.switches.contains "braceexpand" then Brace.expand w else [w]
  let noFiles ← Running.isOn "noglob"
  let mut all : List String := []
  for w in words do
    let fields := (← addParts setting fuel {} (expandTilde f ['/'] w)).toList
    let files := (← Running.process).files
    let manner := Glob.mannerOf f
    for field in fields do
      match if noFiles then none else Glob.expand manner files field with
      | none => all := all ++ [plainText field]
      | some [] =>
        if f.switches.contains "failglob" then Running.fail ("no match: " ++ plainText field)
        else if !f.switches.contains "nullglob" then all := all ++ [plainText field]
      | some found => all := all ++ found
  return all

/-- the fields of words, in order -/
def fieldsOfAll (setting : Setting) (fuel : Nat) (ws : List Word) : Running (List String) := do
  let mut all : List String := []
  for w in ws do
    all := all ++ (← fieldsOf setting fuel w)
  return all

/-- the value of an assignment -/
def valueOf (setting : Setting) (fuel : Nat) (w : Word) : Running String := do
  textOf setting fuel (expandTildes (← Running.frame) w)

/-- the text of a word that is neither cut nor a pattern of file names -/
def singleOf (setting : Setting) (fuel : Nat) (w : Word) : Running String := do
  textOf setting fuel (expandTilde (← Running.frame) ['/'] w)

/-- the pattern that a word stands for -/
def patternOf (setting : Setting) (fuel : Nat) (w : Word) : Running (List PatternMark) := do
  return Pattern.ofSymbols (← patternManner) (← symbolsOf setting fuel (expandTilde (← Running.frame) ['/'] w))

end Expansion

end Benchwork.Shell
