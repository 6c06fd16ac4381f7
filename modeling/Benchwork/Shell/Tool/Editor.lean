/-
Editing lines by a script.

A script is a list of commands, each with up to two addresses that say for which lines it is meant. For every line the
commands are carried out in order on the line held; a block is skipped as a whole, and a branch goes to a label. What is
held in the end is printed, unless that is turned off.
-/
import Benchwork.Number.Whole
import Benchwork.Shell.Regex
import Benchwork.Shell.Tool.Basic

namespace Benchwork.Shell.Tool.Editor

open Benchwork.Text

/-! ## Scripts -/

inductive Address where
  | line (n : Nat)
  | last
  | step (first step : Nat)
  /-- an empty expression stands for the last one used -/
  | found (r : Option Regex) (fold : Bool)
  /-- lines after the first address -/
  | further (n : Nat)
  deriving DecidableEq, Repr

/-- a piece of a replacement -/
inductive Piece where
  | text (cs : List Char)
  | group (n : Nat)
  deriving DecidableEq, Repr

structure Substitution where
  pattern : Option Regex
  fold : Bool := false
  new : List Piece
  every : Bool := false
  number : Nat := 1
  print : Bool := false
  file : Option String := none
  deriving DecidableEq, Repr

inductive Verb where
  | block (stop : Nat)
  | close
  | substitute (s : Substitution)
  | change (text : List Char)
  | insert (text : List Char)
  | append (text : List Char)
  | delete
  | deleteFirst
  | print
  | printFirst
  | quit (code : Nat) (silent : Bool)
  | next
  | nextAppend
  | hold (append : Bool)
  | recall (append : Bool)
  | exchange
  | lineNumber
  | transliterate (pairs : List (Char × Char))
  | readFile (name : String)
  | writeFile (name : String)
  | label (name : String)
  | branch (label : String)
  | branchIf (replaced : Bool) (label : String)
  | list
  | zap
  deriving DecidableEq, Repr

structure Command where
  first : Option Address := none
  second : Option Address := none
  negated : Bool := false
  verb : Verb
  deriving DecidableEq, Repr

/-! ## Reading scripts -/

/-- what is left of a script, and how many characters were read -/
structure Input where
  rest : List Char
  place : Nat := 0
  style : Regex.Style

abbrev Reader := StateT Input (Except String)

def fail {α : Type} (message : String) : Reader α := do
  throw ("char " ++ toString (← get).place ++ ": " ++ message)

def skip (n : Nat) : Reader Unit := modify fun s => { s with rest := s.rest.drop n, place := s.place + n }

def peek : Reader (Option Char) := do return (← get).rest.head?

def skipWhile (p : Char → Bool) : Reader Unit := do skip ((← get).rest.takeWhile p).length

def isGap (c : Char) : Bool := c = ' ' || c = '\t'

def digits : Reader (Option Nat) := do
  let ds := (← get).rest.takeWhile Char.isDigit
  skip ds.length
  return if ds.isEmpty then none else some (Number.digitsValue ds)

/-- text up to a mark, with the mark itself after a backslash; brackets keep it from counting if `brackets` -/
def upTo (mark : Char) (brackets : Bool) (fuel : Nat) (cs : List Char) : Option (List Char × Nat) :=
  match fuel, cs with
  | 0, _ | _, [] => none
  | fuel + 1, c :: rest =>
    if c = mark then some ([], 1)
    else if c = '\\' then
      match rest with
      | d :: after =>
        let piece := if d = mark then [d] else if d = 'n' && brackets then ['\\', 'n'] else ['\\', d]
        (upTo mark brackets fuel after).map fun (text, n) => (piece ++ text, n + 2)
      | [] => none
    else if c = '[' && brackets then
      let negation := if rest.head? = some '^' then 1 else 0
      let closing := if (rest.drop negation).head? = some ']' then 1 else 0
      let inner := rest.take (negation + closing) ++ (rest.drop (negation + closing)).takeWhile (· ≠ ']')
      let after := rest.drop inner.length
      if after.isEmpty then (upTo mark brackets fuel rest).map fun (text, n) => (c :: text, n + 1)
      else (upTo mark brackets fuel (after.drop 1)).map fun (text, n) => (c :: inner ++ ']' :: text, n + inner.length + 2)
    else (upTo mark brackets fuel rest).map fun (text, n) => (c :: text, n + 1)

/-- an expression in which a backslash and an `n` stand for the end of a line -/
def regexOf (style : Regex.Style) (cs : List Char) : Option Regex :=
  let rec newlines : List Char → List Char
    | '\\' :: 'n' :: rest => '\n' :: newlines rest
    | '\\' :: 't' :: rest => '\t' :: newlines rest
    | '\\' :: c :: rest => '\\' :: c :: newlines rest
    | c :: rest => c :: newlines rest
    | [] => []
  Regex.parse style (newlines cs)

def address : Reader (Option Address) := do
  let s ← get
  match s.rest with
  | '$' :: _ => do
    skip 1
    return some .last
  | c :: rest =>
    if c.isDigit then do
      let n := (← digits).getD 0
      if (← peek) = some '~' then do
        skip 1
        return some (.step n ((← digits).getD 0))
      else return some (.line n)
    else if c = '/' || (c = '\\' && rest.length > 0) then
      let mark := if c = '/' then '/' else rest.headD '/'
      let start := if c = '/' then 1 else 2
      match upTo mark true (s.rest.length + 1) (s.rest.drop start) with
      | none => do
        skip s.rest.length
        fail "unterminated address regex"
      | some (source, n) => do
        skip (start + n)
        let fold := (← peek) = some 'I'
        if fold then skip 1
        if source.isEmpty then return some (.found none fold)
        match regexOf s.style source with
        | some r => return some (.found (some r) fold)
        | none => fail "Invalid regular expression"
    else return none
  | [] => return none

/-- the pieces of a replacement -/
def piecesOf (fuel : Nat) (cs : List Char) : List Piece :=
  match fuel, cs with
  | 0, _ | _, [] => []
  | fuel + 1, '&' :: rest => .group 0 :: piecesOf fuel rest
  | fuel + 1, '\\' :: c :: rest =>
    if c.isDigit then .group (c.toNat - 48) :: piecesOf fuel rest
    else if c = 'n' then .text ['\n'] :: piecesOf fuel rest
    else if c = 't' then .text ['\t'] :: piecesOf fuel rest
    else .text [c] :: piecesOf fuel rest
  | fuel + 1, c :: rest => .text [c] :: piecesOf fuel rest

/-- the flags after a substitution -/
def flags (fuel : Nat) (s : Substitution) : Reader Substitution := do
  match fuel with
  | 0 => return s
  | fuel + 1 =>
    match ← peek with
    | some 'g' => do
      skip 1
      flags fuel { s with every := true }
    | some 'p' => do
      skip 1
      flags fuel { s with print := true }
    | some 'i' | some 'I' => do
      skip 1
      flags fuel { s with fold := true }
    | some 'm' | some 'M' | some 'e' => do
      skip 1
      flags fuel s
    | some 'w' => do
      skip 1
      skipWhile isGap
      let name := (← get).rest.takeWhile (· ≠ '\n')
      skip name.length
      return { s with file := some (String.ofList name) }
    | some c =>
      if c.isDigit then do
        let n := (← digits).getD 1
        flags fuel { s with number := n }
      else return s
    | none => return s

/-- the text of a command that adds lines -/
def addedText : Reader (List Char) := do
  skipWhile isGap
  if (← peek) = some '\\' then
    skip 1
    skipWhile isGap
    if (← peek) = some '\n' then skip 1
  let s ← get
  let rec take (fuel : Nat) (cs : List Char) : List Char × Nat :=
    match fuel, cs with
    | 0, _ | _, [] => ([], 0)
    | _, '\n' :: _ => ([], 1)
    | fuel + 1, '\\' :: c :: rest =>
      let (text, n) := take fuel rest
      (c :: text, n + 2)
    | fuel + 1, c :: rest =>
      let (text, n) := take fuel rest
      (c :: text, n + 1)
  let (text, n) := take (s.rest.length + 1) s.rest
  skip n
  return text ++ ['\n']

/-- a word up to the end of a command -/
def wordArgument : Reader String := do
  skipWhile isGap
  let w := (← get).rest.takeWhile fun c => c ≠ '\n' && c ≠ ';'
  skip w.length
  return String.ofList (w.reverse.dropWhile isGap).reverse

def fileArgument : Reader String := do
  skipWhile isGap
  let w := (← get).rest.takeWhile (· ≠ '\n')
  skip w.length
  return String.ofList w

/-- the verb of a command -/
def verb : Reader Verb := do
  match ← peek with
  | none => fail "missing command"
  | some c => do
    skip 1
    let s ← get
    match c with
    | '{' => return .block 0
    | '}' => return .close
    | 's' =>
      match s.rest with
      | mark :: rest =>
        match upTo mark true (rest.length + 1) rest with
        | none => do
          skip s.rest.length
          fail ("unterminated " ++ String.ofList [Char.ofNat 96] ++ "s' command")
        | some (source, n) =>
          match upTo mark false (rest.length + 1) (rest.drop n) with
          | none => do
            skip s.rest.length
            fail ("unterminated " ++ String.ofList [Char.ofNat 96] ++ "s' command")
          | some (new, m) => do
            skip (1 + n + m)
            let pattern ← if source.isEmpty then pure none
              else match regexOf s.style source with
                | some r => pure (some r)
                | none => fail "Invalid regular expression"
            return .substitute (← flags 20 { pattern, new := piecesOf (new.length + 1) new })
      | [] => fail ("unterminated " ++ String.ofList [Char.ofNat 96] ++ "s' command")
    | 'y' =>
      match s.rest with
      | mark :: rest =>
        match upTo mark false (rest.length + 1) rest with
        | some (a, n) =>
          match upTo mark false (rest.length + 1) (rest.drop n) with
          | some (b, m) => do
            skip (1 + n + m)
            if a.length ≠ b.length then
              fail "strings for `y' command are different lengths"
            return .transliterate (a.zip b)
          | none => fail "unterminated `y' command"
        | none => fail "unterminated `y' command"
      | [] => fail "unterminated `y' command"
    | 'a' => return .append (← addedText)
    | 'i' => return .insert (← addedText)
    | 'c' => return .change (← addedText)
    | 'd' => return .delete
    | 'D' => return .deleteFirst
    | 'p' => return .print
    | 'P' => return .printFirst
    | 'q' => do
      skipWhile isGap
      return .quit ((← digits).getD 0) false
    | 'Q' => do
      skipWhile isGap
      return .quit ((← digits).getD 0) true
    | 'n' => return .next
    | 'N' => return .nextAppend
    | 'h' => return .hold false
    | 'H' => return .hold true
    | 'g' => return .recall false
    | 'G' => return .recall true
    | 'x' => return .exchange
    | '=' => return .lineNumber
    | 'l' => return .list
    | 'z' => return .zap
    | 'r' => return .readFile (← fileArgument)
    | 'w' => return .writeFile (← fileArgument)
    | ':' => return .label (← wordArgument)
    | 'b' => return .branch (← wordArgument)
    | 't' => return .branchIf true (← wordArgument)
    | 'T' => return .branchIf false (← wordArgument)
    | c => fail ("unknown command: " ++ String.ofList [Char.ofNat 96, c] ++ "'")

/-- the commands of a script -/
def commands (fuel : Nat) : Reader (List Command) := do
  match fuel with
  | 0 => return []
  | fuel + 1 =>
    skipWhile fun c => isGap c || c = ';' || c = '\n'
    match ← peek with
    | none => return []
    | some '#' => do
      skipWhile (· ≠ '\n')
      commands fuel
    | some _ => do
      let first ← address
      skipWhile isGap
      let second ← if first.isSome && (← peek) = some ',' then do
          skip 1
          skipWhile isGap
          if (← peek) = some '+' then do
            skip 1
            pure (some (.further ((← digits).getD 0)))
          else do
            match ← address with
            | some a => pure (some a)
            | none => fail "unexpected `,'"
        else pure none
      skipWhile isGap
      let negated := (← peek) = some '!'
      if negated then skip 1
      skipWhile isGap
      let v ← verb
      match v with
      | .block _ | .append _ | .insert _ | .change _ => pure ()
      | _ => do
        skipWhile isGap
        match ← peek with
        | none | some ';' | some '\n' | some '}' | some '#' => pure ()
        | some _ => do
          skip 1
          fail "extra characters after command"
      return { first, second, negated, verb := v } :: (← commands fuel)

/-- the place of the brace that closes a block -/
def closing (depth : Nat) (place : Nat) : List Command → Nat
  | [] => place
  | c :: rest =>
    match c.verb with
    | .block _ => closing (depth + 1) (place + 1) rest
    | .close => if depth = 0 then place else closing (depth - 1) (place + 1) rest
    | _ => closing depth (place + 1) rest

/-- lets every block know where it ends -/
def linked (cs : List Command) : List Command :=
  cs.zipIdx.map fun (c, i) =>
    match c.verb with
    | .block _ => { c with verb := .block (closing 0 (i + 1) (cs.drop (i + 1))) }
    | _ => c

def parse (style : Regex.Style) (source : String) : Except String (List Command) := do
  let (cs, _) ← (commands (source.length + 1)).run { rest := source.toList, style }
  return cs

/-! ## Editing -/

structure Work where
  /-- lines that are still to come -/
  ahead : List (List Char)
  line : Nat := 0
  held : List Char := []
  store : List Char := []
  output : List Char := []
  /-- what comes after the line at hand -/
  queue : List Char := []
  replaced : Bool := false
  lastUsed : Option Regex := none
  /-- ranges that have begun, with the line that ends them if it is known -/
  ranges : List (Nat × Option Nat) := []
  files : List (String × List Char) := []
  ended : Option Nat := none
  /-- the last line of the input has no end -/
  bare : Bool := false

namespace Work

def isLast (w : Work) : Bool := w.ahead.isEmpty

def put (w : Work) (cs : List Char) : Work := { w with output := w.output ++ cs }

/-- prints a line with its end, unless it is the last and has none -/
def putLine (w : Work) (cs : List Char) : Work := w.put (cs ++ (if w.isLast && w.bare then [] else ['\n']))

def putFile (w : Work) (name : String) (cs : List Char) : Work :=
  if name = "/dev/stdout" then w.put cs
  else if w.files.any (·.1 = name) then
    { w with files := w.files.map fun f => if f.1 = name then (name, f.2 ++ cs) else f }
  else { w with files := w.files ++ [(name, cs)] }

/-- prints what was put off -/
def flush (w : Work) : Work :=
  if w.queue.isEmpty then w
  else
    let w := if w.isLast && w.bare && w.output.getLast? ≠ some '\n' then w.put ['\n'] else w
    { w.put w.queue with queue := [] }

/-- takes the next line -/
def advance (w : Work) : Work :=
  { w with ahead := w.ahead.tail, held := w.ahead.headD [], line := w.line + 1 }

/-- an address fits the line at hand -/
def fits (w : Work) (a : Address) : Bool × Work :=
  match a with
  | .line n => (w.line = n, w)
  | .last => (w.isLast, w)
  | .step first step => (if step = 0 then w.line = first else w.line ≥ first && (w.line - first) % step = 0, w)
  | .found r fold =>
    match r.orElse fun _ => w.lastUsed with
    | some r => (Regex.isFoundIn fold r w.held, { w with lastUsed := some r })
    | none => (false, w)
  | .further _ => (false, w)

/-- a command is meant for the line at hand; `i` is its place -/
def isMeant (w : Work) (i : Nat) (c : Command) : Bool × Work :=
  match c.first, c.second with
  | none, _ => (true, w)
  | some a, none => w.fits a
  | some a, some b =>
    match w.ranges.find? (·.1 = i) with
    | some (_, stop) =>
      let close := fun (w : Work) => { w with ranges := w.ranges.filter (·.1 ≠ i) }
      match stop, b with
      | some n, _ => if w.line ≥ n then (w.line = n, close w) else (true, w)
      | none, b =>
        let (hit, w) := w.fits b
        (true, if hit then close w else w)
    | none =>
      let (hit, w) := match a with
        | .line 0 => (decide (w.line = 1), w)
        | a => w.fits a
      if !hit then (false, w)
      else
        match b with
        | .line n => (true, if n ≤ w.line then w else { w with ranges := (i, some n) :: w.ranges })
        | .further n => (true, if n = 0 then w else { w with ranges := (i, some (w.line + n)) :: w.ranges })
        | .last => (true, if w.isLast then w else { w with ranges := (i, none) :: w.ranges })
        | b =>
          if a = Address.line 0 then
            let (done, w) := w.fits b
            (true, if done then w else { w with ranges := (i, none) :: w.ranges })
          else (true, { w with ranges := (i, none) :: w.ranges })

end Work

/-- the text of a replacement -/
def replacement (text : Array Char) (start stop : Nat) (caps : Regex.Captures) (new : List Piece) : List Char :=
  new.flatMap fun
    | .text cs => cs
    | .group 0 => (text.extract start stop).toList
    | .group n =>
      match caps.find? (·.1 = n) with
      | some (_, i, j) => (text.extract i j).toList
      | none => []

/-- replaces matches from a place on; the flag says that something was replaced -/
def substituteFrom (s : Substitution) (r : Regex) (text : Array Char) (fuel place count : Nat) : List Char × Bool :=
  match fuel with
  | 0 => ((text.extract place text.size).toList, false)
  | fuel + 1 =>
    if place > text.size then ([], false)
    else
      match Regex.searchFrom s.fold text r place with
      | none => ((text.extract place text.size).toList, false)
      | some (start, stop, caps) =>
        let before := (text.extract place start).toList
        let due := count + 1 ≥ s.number
        let own := if due then replacement text start stop caps s.new else (text.extract start stop).toList
        if due && !s.every then (before ++ own ++ (text.extract stop text.size).toList, true)
        else
          let (gap, next) := if stop > start then ([], stop) else ((text.extract stop (stop + 1)).toList, stop + 1)
          let (rest, more) := substituteFrom s r text fuel next (count + 1)
          (before ++ own ++ gap ++ rest, due || more)

/-- a line with everything visible -/
def visible (cs : List Char) : List Char :=
  cs.flatMap (fun c =>
    match c with
    | '\\' => ['\\', '\\']
    | '\t' => ['\\', 't']
    | '\n' => ['\\', 'n']
    | c => [c]) ++ ['$', '\n']

/-- what comes after a command -/
inductive Outcome where
  | on (w : Work)
  | jump (place : Nat) (w : Work)
  /-- the next line; prints what is held if `print` -/
  | finish (print : Bool) (w : Work)
  /-- the same line again from the start, without reading another one -/
  | again (w : Work)

def placeOf (program : Array Command) (label : String) : Nat :=
  if label = "" then program.size
  else (program.findIdx? fun c => c.verb = .label label).getD program.size

/-- carries out a command that is meant for the line at hand -/
def perform (program : Array Command) (silent : Bool) (readFile : String → List Char) (c : Command) (w : Work) : Outcome :=
  let firstLine := w.held.takeWhile (· ≠ '\n')
  match c.verb with
  | .block _ | .close | .label _ => .on w
  | .substitute s =>
    match s.pattern.orElse fun _ => w.lastUsed with
    | none => .on w
    | some r =>
      let (text, hit) := substituteFrom s r w.held.toArray (w.held.length + 2) 0 0
      let w := { w with lastUsed := some r }
      if !hit then .on w
      else
        let w := { w with held := text, replaced := true }
        let w := if s.print then w.putLine text else w
        .on (match s.file with
          | some name => w.putFile name (text ++ ['\n'])
          | none => w)
  | .change text =>
    let w := match c.second with
      | some _ => if w.ranges.isEmpty || c.negated then w.put text else w
      | none => w.put text
    .finish false w
  | .insert text => .on (w.put text)
  | .append text => .on { w with queue := w.queue ++ text }
  | .delete => .finish false w
  | .deleteFirst =>
    if w.held.contains '\n' then .again { w with held := (w.held.dropWhile (· ≠ '\n')).drop 1 } else .finish false w
  | .print => .on (w.putLine w.held)
  | .printFirst => .on (w.put (firstLine ++ ['\n']))
  | .quit code quiet =>
    let w := if quiet || silent then w else w.putLine w.held
    .finish false { (if quiet then w else w.flush) with ended := some code }
  | .next =>
    if w.isLast then .finish true { w with ended := some 0 }
    else
      let w := if silent then w else w.putLine w.held
      .on w.flush.advance
  | .nextAppend =>
    if w.isLast then .finish true { w with ended := some 0 }
    else
      let before := w.held
      let w := w.flush.advance
      .on { w with held := before ++ '\n' :: w.held }
  | .hold append => .on { w with store := if append then w.store ++ '\n' :: w.held else w.held }
  | .recall append => .on { w with held := if append then w.held ++ '\n' :: w.store else w.store }
  | .exchange => .on { w with held := w.store, store := w.held }
  | .lineNumber => .on (w.put ((toString w.line).toList ++ ['\n']))
  | .transliterate pairs =>
    .on { w with held := w.held.map fun ch => ((pairs.find? (·.1 = ch)).map (·.2)).getD ch }
  | .readFile name => .on { w with queue := w.queue ++ readFile name }
  | .writeFile name => .on (w.putFile name (w.held ++ ['\n']))
  | .branch label => .jump (placeOf program label) w
  | .branchIf wanted label =>
    if w.replaced = wanted then .jump (placeOf program label) { w with replaced := false }
    else .on { w with replaced := false }
  | .list => .on (w.put (visible w.held))
  | .zap => .on { w with held := [] }

/-- carries out the commands from a place on; says whether what is held is printed, and whether the line starts again -/
def cycle (program : Array Command) (silent : Bool) (readFile : String → List Char) (fuel place : Nat) (w : Work) :
    Bool × Bool × Work :=
  match fuel with
  | 0 => (true, false, w)
  | fuel + 1 =>
    match program[place]? with
    | none => (true, false, w)
    | some c =>
      let (meant, w) := w.isMeant place c
      if meant = c.negated then
        match c.verb with
        | .block stop => cycle program silent readFile fuel (stop + 1) w
        | _ => cycle program silent readFile fuel (place + 1) w
      else
        match perform program silent readFile c w with
        | .on w => cycle program silent readFile fuel (place + 1) w
        | .jump target w => cycle program silent readFile fuel target w
        | .finish print w => (print, false, w)
        | .again w => (false, true, w)

/-- edits line after line -/
def lines (program : Array Command) (silent : Bool) (readFile : String → List Char) (fuel : Nat) (fresh : Bool) (w : Work) :
    Work :=
  match fuel with
  | 0 => w
  | fuel + 1 =>
    if w.ended.isSome || (fresh && w.ahead.isEmpty) then w
    else
      let w := if fresh then { w.advance with replaced := false } else w
      let (print, again, w) := cycle program silent readFile 10000 0 w
      let w := if print && !silent then w.putLine w.held else w
      lines program silent readFile fuel (!again) w.flush

/-- edits a text: what is printed, the files written, and the code asked for -/
def edit (program : List Command) (silent : Bool) (readFile : String → List Char) (text : List Char) : Work :=
  let all := linesOf text
  lines (linked program).toArray silent readFile (2 * all.length + 2) true
    { ahead := all, bare := !text.isEmpty && text.getLast? ≠ some '\n' }

end Benchwork.Shell.Tool.Editor

namespace Benchwork.Shell.Tool

open Benchwork.Text Tooling

def sed (args : List String) : Tooling Nat := do
  let inPlace := args.any fun a => a = "-i" || a = "--in-place" || (a.startsWith "-i" && a.length > 2)
  let suffix := ((args.find? fun a => a.startsWith "-i" && a.length > 2).map fun a => String.ofList (a.toList.drop 2)).getD ""
  let args := args.filter fun a => !(a = "-i" || a = "--in-place" || (a.startsWith "-i" && a.length > 2))
  let c ← choices 1
    [⟨"n", ["quiet", "silent"], false⟩, ⟨"e", ["expression"], true⟩, ⟨"f", ["file"], true⟩,
     ⟨"E", ["regexp-extended"], false⟩, ⟨"r", [], false⟩, ⟨"s", ["separate"], false⟩, ⟨"u", ["unbuffered"], false⟩,
     ⟨"z", ["null-data"], false⟩, ⟨"i", [], false⟩] args
  let style : Regex.Style := if c.has "E" || c.has "r" then .extended else .basic
  let explicit := c.has "e" || c.has "f"
  let mut program : List Editor.Command := []
  let sources := if explicit then c.given else (c.operands.take 1).map fun s => ("e", s)
  let mut number := 0
  for (key, value) in sources do
    let (text, origin) ← match key with
      | "e" => do
        number := number + 1
        pure (value, "-e expression #" ++ toString number)
      | "f" => do
        match ← input value with
        | .ok bytes => pure (Octets.ofBytes bytes, "file " ++ value)
        | .error e => do
          complain ("couldn't open file " ++ value ++ ": " ++ e.description)
          quit 1
      | _ => pure ("", "")
    match Editor.parse style text with
    | .ok cs => program := program ++ cs
    | .error message => do
      complain (origin ++ ", " ++ message)
      quit 1
  let names := if explicit then c.operands else c.operands.drop 1
  if sources.isEmpty then do
    let name ← read
    modify (·.complain ("Usage: " ++ name ++ " [OPTION]... \x7bscript-only-if-no-other-script\x7d [input-file]...\n\n"))
    quit 1
  let p ← get
  let readFile := fun (name : String) => (Octets.ofBytes ((p.readFile name).toOption.getD [])).toList
  let mut code := 0
  let mut texts : List (String × List Char) := []
  for name in (if names.isEmpty then ["-"] else names) do
    match ← input name with
    | .ok bytes => texts := texts ++ [(name, (Octets.ofBytes bytes).toList)]
    | .error .isDirectory => do
      if inPlace then complain ("couldn't edit " ++ name ++ ": not a regular file")
      else complain ("read error on " ++ name ++ ": Is a directory")
      code := if inPlace then 4 else 2
    | .error e => do
      complain ("can't read " ++ name ++ ": " ++ e.description)
      code := 2
  let jobs := if inPlace || c.has "s" then texts else
    [("-", (texts.zipIdx.map fun (t, i) =>
      if i + 1 < texts.length && !t.2.isEmpty && t.2.getLast? ≠ some '\n' then t.2 ++ ['\n'] else t.2).flatten)]
  let mut ended : Option Nat := none
  for (name, text) in jobs do
    if ended.isNone then
      let w := Editor.edit program (c.has "n") readFile text
      ended := w.ended
      for (file, content) in w.files do
        let _ ← change fun fs => fs.write (Process.pathOf file) (content.map fun ch => ch.toNat.toUInt8)
      if inPlace then
        if suffix ≠ "" then
          let _ ← change fun fs => fs.write (Process.pathOf (name ++ suffix)) (text.map fun ch => ch.toNat.toUInt8)
        let rest := if w.ended.isSome then
            String.ofList (List.flatten (w.ahead.map (· ++ ['\n']))) else ""
        let _ ← change fun fs => fs.write (Process.pathOf name) (Octets.toBytes (String.ofList w.output ++ rest))
      else say (String.ofList w.output)
  return match ended with
    | some n => if n = 0 then code else n
    | none => code

end Benchwork.Shell.Tool
