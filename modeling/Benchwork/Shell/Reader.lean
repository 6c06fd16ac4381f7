/-
Reading a shell script.

A script is read one complete command at a time, because what stands before a mistake is carried out first. Blanks divide
words, a number sign at the start of one begins a comment, and a backslash takes its meaning from the next character. A
keyword counts only where a command can begin and only when it is not quoted. Everything takes fuel, which the length of
the text provides.
-/
import Benchwork.Shell.Script

namespace Benchwork.Shell

namespace Reader

inductive Token where
  | word (w : Word)
  /-- a list of words that is the value of a name -/
  | list (name : String) (append : Bool) (values : List (Option Word × Word))
  /-- a sign that divides or joins commands -/
  | sign (s : String)
  /-- a sign that redirects a stream, and the number before it -/
  | redirect (stream : Option Nat) (s : String)
  | finish

/-- why a text is no script -/
inductive Mistake where
  /-- a token that fits nowhere, in the words of both dialects, and the one that was wanted -/
  | unexpected (plain extended : String) (wanted : Option String)
  | unclosed (mark : Char) (plain : String)
  /-- a condition that goes wrong at a token -/
  | condition (reason token : String)
  | other (plain : String)

structure Fault where
  line : Nat
  mistake : Mistake

/-- what is left to read -/
structure Source where
  rest : List Char
  line : Nat := 1
  /-- lines with documents that follow the line being read -/
  skipped : Nat := 0
  ahead : Option Token := none
  /-- the line of the innermost quote or brace that is open -/
  opened : Nat := 1
  /-- the line on which the last token began -/
  tokenLine : Nat := 1
  /-- words that stand for other texts where a command begins -/
  aliases : List (String × String) := []
  /-- the ones being read, and how much text follows each of them -/
  expanding : List (String × Nat) := []
  /-- a sign before a round bracket makes a group of patterns -/
  groups : Bool := false
  dialect : Dialect

end Reader

abbrev Reader := StateT Reader.Source (Except Reader.Fault)

namespace Reader

def backquote : Char := Char.ofNat 96

def failWith {α : Type} (m : Mistake) : Reader α := do throw ⟨(← get).line, m⟩

def isExtended : Reader Bool := do return (← get).dialect = .extended

/-- fails because a mark was not closed: the extended dialect names the line where it was opened -/
def failUnclosed {α : Type} (m : Mistake) : Reader α := do
  let s ← get
  throw ⟨if s.dialect = .extended then s.opened else s.line, m⟩

/-- reads what a mark on the line at hand opens -/
def inside {α : Type} (body : Reader α) : Reader α := do
  let before := (← get).opened
  modify fun s => { s with opened := s.line }
  let a ← body
  modify fun s => { s with opened := before }
  return a

/-- takes characters away and counts their lines -/
def drop (n : Nat) : Reader Unit := modify fun s =>
  let lines := ((s.rest.take n).filter (· = '\n')).length
  if lines = 0 then { s with rest := s.rest.drop n }
  else { s with rest := s.rest.drop n, line := s.line + lines + s.skipped, skipped := 0 }

def isNameStart (c : Char) : Bool := c.isAlpha || c = '_'

def isNameChar (c : Char) : Bool := c.isAlphanum || c = '_'

def isName (cs : List Char) : Bool := cs.head?.any isNameStart && cs.all isNameChar

/-- a parameter known by one character -/
def isSpecial (c : Char) : Bool := "@*#?$!-".toList.contains c || c.isDigit

/-- ends a word that is not in quotes -/
def endsWord (c : Char) : Bool := " \t\n;&|<>()".toList.contains c

/-- joins neighbouring texts of one kind -/
def joinTexts : List Part → List Part
  | [] => []
  | .text s q :: rest =>
    match joinTexts rest with
    | .text t q' :: rest' => if q = q' then .text (s ++ t) q :: rest' else .text s q :: .text t q' :: rest'
    | rest' => .text s q :: rest'
  | part :: rest => part :: joinTexts rest

/-! ## Tokens and complaints -/

def keywords : List String :=
  ["!", "case", "do", "done", "elif", "else", "esac", "fi", "for", "if", "in", "then", "until", "while", "\x7b", "\x7d"]

/-- the keyword that a token is, if it is one -/
def Token.keyword? : Token → Option String
  | .word w => (bareText? w).filter keywords.contains
  | _ => none

/-- a token in the words of the plain dialect -/
def Token.plainName (t : Token) : String :=
  match t with
  | .finish => "end of file"
  | .sign "\n" => "newline"
  | .sign s => "\"" ++ s ++ "\""
  | .redirect _ _ => "redirection"
  | .list _ _ _ => "word"
  | .word _ =>
    match t.keyword? with
    | some k => "\"" ++ k ++ "\""
    | none => "word"

/-- the characters of a word as far as they are text -/
def textOf (w : Word) : String :=
  String.join (w.map fun
    | .text s _ => String.ofList s
    | .parameter name _ _ _ => "$" ++ name
    | _ => "")

def Token.extendedName : Token → String
  | .finish | .sign "\n" => "newline"
  | .sign s => s
  | .redirect _ s => s
  | .list name _ _ => name
  | .word w => textOf w

def unexpected {α : Type} (t : Token) (wanted : Option String) : Reader α := do
  let s ← get
  let line := if s.dialect = .extended then s.tokenLine else s.line
  match t with
  | .finish => throw ⟨line, .unexpected t.plainName "" wanted⟩
  | _ => throw ⟨line, .unexpected t.plainName t.extendedName wanted⟩

/-- fails at a token where no keyword counts -/
def unexpectedWord {α : Type} (t : Token) (wanted : Option String) : Reader α := do
  match t, (← get).dialect with
  | .word w, .plain => failWith (.unexpected "word" (textOf w) wanted)
  | _, _ => unexpected t wanted

/-- the lines of a document up to its end mark, and what follows -/
def documentLines (fuel : Nat) (mark : List Char) (tabs : Bool) (cs : List Char) : List (List Char) × List Char :=
  match fuel, cs with
  | 0, _ | _, [] => ([], cs)
  | fuel + 1, cs =>
    let line := cs.takeWhile (· ≠ '\n')
    let after := (cs.drop line.length).drop 1
    let line := if tabs then line.dropWhile (· = '\t') else line
    if line = mark then ([], after)
    else
      let (more, rest) := documentLines fuel mark tabs after
      (line :: more, rest)

/-- where the line being read ends: its rest, and the lines after it -/
def splitLine (quote : Option Char) : List Char → List Char × List Char
  | [] => ([], [])
  | '\\' :: c :: rest =>
    if quote = some '\'' then
      let (line, after) := splitLine quote (c :: rest)
      ('\\' :: line, after)
    else
      let (line, after) := splitLine quote rest
      ('\\' :: c :: line, after)
  | c :: rest =>
    if c = '\n' && quote.isNone then ([], rest)
    else
      let quote := match quote with
        | some q => if c = q then none else quote
        | none => if c = '\'' || c = '"' then some c else none
      let (line, after) := splitLine quote rest
      (c :: line, after)

/-- takes the document with the given end mark out of the lines after the one being read -/
def takeDocument (mark : List Char) (tabs : Bool) : Reader (List Char) := do
  let s ← get
  let (line, below) := splitLine none s.rest
  let (lines, after) := documentLines below.length.succ mark tabs below
  let used := (below.filter (· = '\n')).length - (after.filter (· = '\n')).length
  set { s with rest := line ++ '\n' :: after, skipped := s.skipped + used }
  return lines.flatMap (· ++ ['\n'])

/-- what stands between quotes with a dollar sign before them -/
def resolveQuoted (fuel : Nat) (cs : List Char) : List Char :=
  match fuel, cs with
  | 0, _ | _, [] => []
  | fuel + 1, '\\' :: c :: rest =>
    let octal := ((c :: rest).take 3).takeWhile fun d => '0' ≤ d && d ≤ '7'
    if c = 'n' then '\n' :: resolveQuoted fuel rest
    else if c = 't' then '\t' :: resolveQuoted fuel rest
    else if c = 'r' then '\r' :: resolveQuoted fuel rest
    else if c = 'a' then Char.ofNat 7 :: resolveQuoted fuel rest
    else if c = 'b' then Char.ofNat 8 :: resolveQuoted fuel rest
    else if c = 'e' then Char.ofNat 27 :: resolveQuoted fuel rest
    else if c = 'f' then Char.ofNat 12 :: resolveQuoted fuel rest
    else if c = 'v' then Char.ofNat 11 :: resolveQuoted fuel rest
    else if c = 'x' then
      let digits := Arithmetic.digitsIn 16 (rest.take 2)
      Char.ofNat (Arithmetic.valueIn 16 digits) :: resolveQuoted fuel (rest.drop digits.length)
    else if !octal.isEmpty then
      Char.ofNat (Arithmetic.valueIn 8 octal % 256) :: resolveQuoted fuel ((c :: rest).drop octal.length)
    else if c = '\'' || c = '"' || c = '\\' || c = '?' then c :: resolveQuoted fuel rest
    else '\\' :: c :: resolveQuoted fuel rest
  | fuel + 1, c :: rest => c :: resolveQuoted fuel rest

/-- the text up to a quote that no backslash precedes, and its length with that quote -/
def upToQuote : List Char → Option (List Char)
  | [] => none
  | '\\' :: c :: rest => (upToQuote rest).map fun inner => '\\' :: c :: inner
  | '\'' :: _ => some []
  | c :: rest => (upToQuote rest).map (c :: ·)

/-- the text between backquotes, with its backslashes resolved, and how long it was -/
def backquoted (quoted : Bool) : List Char → Option (List Char × Nat)
  | [] => none
  | '\\' :: c :: rest =>
    (backquoted quoted rest).map fun (inner, n) =>
      if c = '\\' || c = backquote || c = '$' || (quoted && c = '"') then (c :: inner, n + 2) else ('\\' :: c :: inner, n + 2)
  | c :: rest => if c = backquote then some ([], 1) else (backquoted quoted rest).map fun (inner, n) => (c :: inner, n + 1)

/-- where a part of a word stands -/
inductive Mode where
  | bare
  /-- in double quotes -/
  | quotes
  /-- after the name in a parameter with braces; `quoted` ones stand in double quotes -/
  | brace (quoted : Bool)
  /-- a part of such a text that a slash or colon ends -/
  | piece (stop : Char)
  | document
  /-- in a sum, with so many open brackets -/
  | sum (depth : Nat)
  /-- between square brackets -/
  | index
  /-- a word that may hold round brackets -/
  | regex (depth : Nat)
  /-- in a group of patterns, with so many open brackets -/
  | group (depth : Nat)
  deriving DecidableEq

def Mode.isQuoted : Mode → Bool
  | .quotes | .document | .sum _ => true
  | .brace quoted => quoted
  | _ => false

/-- single quotes have a meaning -/
def Mode.takesQuotes : Mode → Bool
  | .bare | .index | .piece _ | .regex _ | .group _ => true
  | .brace quoted => !quoted
  | _ => false

/-- the complaint about a text that ends too early -/
def Mode.atEnd : Mode → Option Mistake
  | .quotes => some (.unclosed '"' "Unterminated quoted string")
  | .brace true => some (.unclosed '}' "Unterminated quoted string")
  | .brace false | .piece _ => some (.unclosed '}' "Missing '\x7d'")
  | .sum _ => some (.unclosed ')' "Missing '))'")
  | .index => some (.unclosed ']' "Missing '\x7d'")
  | .group _ => some (.unclosed ')' "Missing ')'")
  | _ => none

/-- a backslash before this character takes its meaning away -/
def Mode.escapes (mode : Mode) (c : Char) : Bool :=
  match mode with
  | .quotes => ['$', backquote, '"', '\\'].contains c
  | .document => ['$', backquote, '\\'].contains c
  | .sum _ => ['$', backquote, '"', '\\'].contains c
  | .brace true => ['$', backquote, '"', '\\', '}'].contains c
  | _ => true

/-- the sign of a redirection -/
def redirectSign : Reader String := do
  let extended ← isExtended
  let known := (if extended then ["<<<"] else []) ++ ["<<-", "<<", "<&", "<>", "<", ">>", ">&", ">|", ">"]
  let rest := (← get).rest
  match known.find? fun s => rest.take s.length = s.toList with
  | some s => do
    drop s.length
    return s
  | none => return ""

/-- the parts up to a closing square bracket outside quotes, and those after it -/
def cutIndex : List Part → Option (List Part × List Part)
  | [] => none
  | .text cs false :: rest =>
    let inner := cs.takeWhile (· ≠ ']')
    match cs.drop inner.length with
    | _ :: after => some (if inner.isEmpty then [] else [.text inner false], .text after false :: rest)
    | [] => (cutIndex rest).map fun (key, after) => (.text cs false :: key, after)
  | part :: rest => (cutIndex rest).map fun (key, after) => (part :: key, after)

/-- adds to the pieces of a simple command -/
def addTo (s : Script) (f : List Assignment → List Word → List Redirection → Script) : Reader Script :=
  match s with
  | .simple _ assignments words rs => return f assignments words rs
  | _ => unexpected (.sign "(") none

/-- what a simple command has so far: nothing, only settings and redirections, or words -/
inductive Progress where
  | nothing
  | settings
  | words
  deriving DecidableEq

/-- operators between two words of a condition -/
def conditionOperators : List String :=
  ["=", "==", "!=", "-eq", "-ne", "-lt", "-le", "-gt", "-ge", "-nt", "-ot", "-ef"]

/-! ## Words and commands -/

mutual

/-- the parts of a word up to where the mode ends it -/
def segment (fuel : Nat) (mode : Mode) : Reader (List Part) :=
  match fuel with
  | 0 => failWith (.other "too long")
  | fuel + 1 => do
    let quoted := mode.isQuoted
    let literal := fun (c : Char) => (do
      drop 1
      return Part.text [c] quoted :: (← segment fuel mode) : Reader (List Part))
    match (← get).rest with
    | [] =>
      match mode.atEnd with
      | some m => failUnclosed m
      | none => return []
    | '\\' :: rest =>
      match rest with
      | [] => do
        drop 1
        return [.text ['\\'] true]
      | '\n' :: _ => do
        drop 2
        segment fuel mode
      | c :: _ => do
        drop 2
        let kept := if mode.escapes c then [c] else ['\\', c]
        return .text kept true :: (← segment fuel mode)
    | '\'' :: rest =>
      if mode.takesQuotes then
        let inner := rest.takeWhile (· ≠ '\'')
        if inner.length = rest.length then
          inside do
            drop (inner.length + 1)
            failUnclosed (.unclosed '\'' "Unterminated quoted string")
        else do
          drop (inner.length + 2)
          return .text inner true :: (← segment fuel mode)
      else literal '\''
    | '"' :: _ =>
      match mode with
      | .quotes => do
        drop 1
        return []
      | .document | .sum _ => literal '"'
      | _ => do
        drop 1
        let inner ← inside (segment fuel .quotes)
        return (if inner.isEmpty then [.text [] true] else inner) ++ (← segment fuel mode)
    | '$' :: _ => do
      drop 1
      let part ← dollar fuel mode
      return part ++ (← segment fuel mode)
    | c :: rest =>
      if c = backquote then do
        let line := (← get).line
        match backquoted quoted rest with
        | none =>
          inside do
            drop (rest.length + 1)
            failUnclosed (.unclosed backquote "EOF in backquote substitution")
        | some (inner, size) =>
          let dialect := (← get).dialect
          match (commands fuel true).run { rest := inner, line, dialect } with
          | .error e => throw e
          | .ok (script, _) => do
            drop (size + 1)
            return .output script quoted :: (← segment fuel mode)
      else
        let opensGroup := "@?*+!".toList.contains c && rest.head? = some '(' && (← get).groups
        match mode with
        | .group depth =>
          if c = '(' then do
            drop 1
            return .text ['('] false :: (← segment fuel (.group (depth + 1)))
          else if c = ')' then
            match depth with
            | 0 => do
              drop 1
              return [.text [')'] false]
            | depth + 1 => do
              drop 1
              return .text [')'] false :: (← segment fuel (.group depth))
          else literal c
        | .bare =>
          if opensGroup then do
            drop 2
            let inner ← segment fuel (.group 0)
            return .text [c, '('] false :: inner ++ (← segment fuel mode)
          else if c = '<' && rest.head? = some '(' && (← isExtended) then do
            drop 1
            let part := (← substitution fuel false).map fun
              | .output script _ => .stream script
              | p => p
            return part ++ (← segment fuel mode)
          else if endsWord c then return []
          else literal c
        | .regex depth =>
          if opensGroup && depth = 0 then do
            drop 2
            let inner ← segment fuel (.group 0)
            return .text [c, '('] false :: inner ++ (← segment fuel mode)
          else if c = '(' then do
            drop 1
            return .text ['('] false :: (← segment fuel (.regex (depth + 1)))
          else if c = ')' && depth > 0 then do
            drop 1
            return .text [')'] false :: (← segment fuel (.regex (depth - 1)))
          else if c = '|' && depth > 0 then literal c
          else if endsWord c && c ≠ '|' && (c ≠ ' ' || depth = 0) then return []
          else if c = '|' && rest.head? = some '|' then return []
          else literal c
        | .brace _ =>
          if c = '}' then do
            drop 1
            return []
          else literal c
        | .piece stop => if c = '}' || c = stop then return [] else literal c
        | .index =>
          if c = ']' then do
            drop 1
            return []
          else literal c
        | .sum depth =>
          if c = '(' then do
            drop 1
            return .text ['('] true :: (← segment fuel (.sum (depth + 1)))
          else if c = ')' then
            match depth with
            | 0 =>
              if rest.head? = some ')' then do
                drop 2
                return []
              else if (← isExtended) then failUnclosed (.unclosed ')' "Missing '))'")
              else literal c
            | depth + 1 => do
              drop 1
              return .text [')'] true :: (← segment fuel (.sum depth))
          else literal c
        | _ => literal c

/-- what a dollar sign begins -/
def dollar (fuel : Nat) (mode : Mode) : Reader (List Part) :=
  match fuel with
  | 0 => failWith (.other "too long")
  | fuel + 1 => do
    let quoted := mode.isQuoted
    match (← get).rest with
    | '(' :: '(' :: _ =>
      let before ← get
      let sum : Reader (List Part) := do
        drop 2
        return [.sum (joinTexts (← inside (segment fuel (.sum 0)))) quoted]
      if (← isExtended) then
        match sum.run before with
        | .ok (parts, s) => do
          set s
          return parts
        | .error e =>
          match (substitution fuel quoted).run before with
          | .ok (parts, s) => do
            set s
            return parts
          | .error _ => throw e
      else sum
    | '(' :: _ => substitution fuel quoted
    | '{' :: _ => do
      drop 1
      return [← inside (braced fuel mode)]
    | '\'' :: rest =>
      if mode.takesQuotes && (← isExtended) then
        match upToQuote rest with
        | some inner => do
          drop (inner.length + 2)
          return [.text (resolveQuoted inner.length inner) true]
        | none => inside (failUnclosed (.unclosed '\'' "Unterminated quoted string"))
      else return [.text ['$'] quoted]
    | '"' :: _ => if mode.takesQuotes && (← isExtended) then return [] else return [.text ['$'] quoted]
    | c :: rest =>
      if isNameStart c then do
        let name := c :: rest.takeWhile isNameChar
        drop name.length
        return [.parameter (String.ofList name) none .value quoted]
      else if isSpecial c then do
        drop 1
        return [.parameter (String.singleton c) none .value quoted]
      else return [.text ['$'] quoted]
    | [] => return [.text ['$'] quoted]

/-- a script in a word, after the dollar sign -/
def substitution (fuel : Nat) (quoted : Bool) : Reader (List Part) :=
  match fuel with
  | 0 => failWith (.other "too long")
  | fuel + 1 => do
    drop 1
    let script ← commands fuel true
    match ← next fuel with
    | .sign ")" => return [.output script quoted]
    | .finish =>
      if (← isExtended) then failWith (.unclosed ')' "") else unexpected .finish (some "\")\"")
    | t => unexpected t (some "\")\"")

/-- a parameter in braces, after the opening one -/
def braced (fuel : Nat) (mode : Mode) : Reader Part :=
  match fuel with
  | 0 => failWith (.other "too long")
  | fuel + 1 => do
    let quoted := mode.isQuoted
    let rest := (← get).rest
    let extended ← isExtended
    -- the length of a value
    let lengthOf := match rest with
      | '#' :: c :: after =>
        if c = '}' then none
        else if isNameStart c then
          let name := c :: after.takeWhile isNameChar
          let next := after.drop (name.length - 1)
          if next.head? = some '}' || next.head? = some '[' then some name else none
        else if isSpecial c && after.head? = some '}' then some [c]
        else if c.isDigit && (after.dropWhile Char.isDigit).head? = some '}' then some (c :: after.takeWhile Char.isDigit)
        else none
      | _ => none
    match lengthOf with
    | some name => do
      drop (name.length + 1)
      let index ← if (← get).rest.head? = some '[' then do
          drop 1
          pure (some (joinTexts (← segment fuel .index)))
        else pure none
      drop 1
      return .parameter (String.ofList name) index .length quoted
    | none =>
      let bang := extended && rest.head? = some '!' &&
        (rest.tail.head?.any isNameStart || rest.tail.head?.any Char.isDigit || rest.tail.take 2 = ['#', '}'])
      let rest := if bang then rest.tail else rest
      let name := match rest with
        | c :: after =>
          if isNameStart c then c :: after.takeWhile isNameChar
          else if c.isDigit then rest.takeWhile Char.isDigit
          else if isSpecial c then [c]
          else []
        | [] => []
      drop (name.length + if bang then 1 else 0)
      let index ← if extended && (← get).rest.head? = some '[' && name.head?.any isNameStart then do
          drop 1
          pure (some (joinTexts (← segment fuel .index)))
        else pure none
      let make := fun (use : Use) => Part.parameter (String.ofList name) index use quoted
      let word := fun (n : Nat) (use : Word → Use) => (do
        drop n
        return make (use (joinTexts (← segment fuel (.brace quoted)))) : Reader Part)
      let patternWord := fun (n : Nat) (use : Word → Use) => (do
        drop n
        return make (use (joinTexts (← segment fuel (.brace false)))) : Reader Part)
      let unknown := (do
        let source := rest.takeWhile (· ≠ '}')
        -- the plain dialect takes the sign that it does not know, whatever it is
        match extended, (← get).rest with
        | false, ':' :: _ => drop 2
        | false, '\n' :: _ => modify fun s => { s with rest := s.rest.drop 1 }
        | _, _ => pure ()
        let _ ← segment fuel (.brace quoted)
        return make (.unknown source) : Reader Part)
      if name.isEmpty then unknown
      else
        match (← get).rest with
        | '}' :: _ => do
          drop 1
          return make (if bang then (if index.isSome then .places else .indirect) else .value)
        | '*' :: '}' :: _ => if bang then do drop 2; return make (.names true) else unknown
        | '@' :: '}' :: _ => if bang then do drop 2; return make (.names false) else unknown
        | '@' :: kind :: '}' :: _ =>
          if extended && "QULuEPAKak".toList.contains kind then do drop 3; return make (.shown kind) else unknown
        | ':' :: '-' :: _ => word 2 (.fallback true)
        | ':' :: '=' :: _ => word 2 (.assign true)
        | ':' :: '?' :: _ => word 2 (.complain true)
        | ':' :: '+' :: _ => word 2 (.instead true)
        | '-' :: _ => word 1 (.fallback false)
        | '=' :: _ => word 1 (.assign false)
        | '?' :: _ => word 1 (.complain false)
        | '+' :: _ => word 1 (.instead false)
        | '#' :: '#' :: _ => patternWord 2 (.cutStart true)
        | '#' :: _ => patternWord 1 (.cutStart false)
        | '%' :: '%' :: _ => patternWord 2 (.cutEnd true)
        | '%' :: _ => patternWord 1 (.cutEnd false)
        | ':' :: _ =>
          if extended then do
            drop 1
            let start ← segment fuel (.piece ':')
            if (← get).rest.head? = some ':' then do
              drop 1
              let size ← segment fuel (.brace false)
              return make (.slice (joinTexts start) (some (joinTexts size)))
            else do
              drop 1
              return make (.slice (joinTexts start) none)
          else unknown
        | '/' :: after =>
          if extended then do
            let (place, n) : Pattern.Place × Nat := match after with
              | '/' :: _ => (.everywhere, 2)
              | '#' :: _ => (.atStart, 2)
              | '%' :: _ => (.atEnd, 2)
              | _ => (.first, 1)
            drop n
            let pattern ← segment fuel (.piece '/')
            if (← get).rest.head? = some '/' then do
              drop 1
              let new ← segment fuel (.brace false)
              return make (.replace place (joinTexts pattern) (joinTexts new))
            else do
              drop 1
              return make (.replace place (joinTexts pattern) [])
          else unknown
        | '^' :: '^' :: '}' :: _ => if extended then do drop 3; return make (.recase true true) else unknown
        | '^' :: '}' :: _ => if extended then do drop 2; return make (.recase true false) else unknown
        | ',' :: ',' :: '}' :: _ => if extended then do drop 3; return make (.recase false true) else unknown
        | ',' :: '}' :: _ => if extended then do drop 2; return make (.recase false false) else unknown
        | _ => unknown

/-- reads the next token -/
def token (fuel : Nat) : Reader Token :=
  match fuel with
  | 0 => failWith (.other "too long")
  | fuel + 1 => do
    let sign := fun (s : String) => (do
      drop s.length
      return Token.sign s : Reader Token)
    let extended ← isExtended
    modify fun s => { s with tokenLine := s.line }
    match (← get).rest with
    | [] => return .finish
    | '\\' :: '\n' :: _ => do
      drop 2
      token fuel
    | '\n' :: _ => sign "\n"
    | '&' :: '&' :: _ => sign "&&"
    | '&' :: '>' :: '>' :: _ => if extended then do drop 3; return .redirect none "&>>" else sign "&"
    | '&' :: '>' :: _ => if extended then do drop 2; return .redirect none "&>" else sign "&"
    | '&' :: _ => sign "&"
    | '|' :: '|' :: _ => sign "||"
    | '|' :: '&' :: _ => if extended then sign "|&" else sign "|"
    | '|' :: _ => sign "|"
    | ';' :: ';' :: '&' :: _ => if extended then sign ";;&" else sign ";;"
    | ';' :: ';' :: _ => sign ";;"
    | ';' :: '&' :: _ => if extended then sign ";&" else sign ";"
    | ';' :: _ => sign ";"
    | '(' :: _ => sign "("
    | ')' :: _ => sign ")"
    | '<' :: rest | '>' :: rest => do
      if extended && rest.head? = some '(' then return .word (joinTexts (← segment fuel .bare))
      else do
        let s ← redirectSign
        return .redirect none s
    | c :: rest =>
      if c = ' ' || c = '\t' then do
        drop 1
        token fuel
      else if c = '#' then do
        drop ((c :: rest).takeWhile (· ≠ '\n')).length
        token fuel
      else
        let digits := (c :: rest).takeWhile Char.isDigit
        let after := (c :: rest).drop digits.length
        if !digits.isEmpty && (after.head? = some '<' || after.head? = some '>') then do
          drop digits.length
          let s ← redirectSign
          return .redirect (String.ofList digits).toNat? s
        else do
          let parts := joinTexts (← segment fuel .bare)
          match extended, parts, (← get).rest with
          | true, [.text s false], '(' :: _ =>
            let name := s.takeWhile isNameChar
            if isName name && s.drop name.length = ['='] then do
              drop 1
              return .list (String.ofList name) false (← listValues fuel)
            else if isName name && s.drop name.length = ['+', '='] then do
              drop 1
              return .list (String.ofList name) true (← listValues fuel)
            else return .word parts
          | _, _, _ => return .word parts

/-- the words up to a closing bracket -/
def listValues (fuel : Nat) : Reader (List (Option Word × Word)) :=
  match fuel with
  | 0 => failWith (.other "too long")
  | fuel + 1 => do
    match ← token fuel with
    | .word w =>
      let value := match w with
        | .text ('[' :: cs) false :: parts =>
          match cutIndex (.text cs false :: parts) with
          | some (key, .text ('=' :: v) false :: after) =>
            (some key, if v.isEmpty then after else .text v false :: after)
          | _ => (none, w)
        | _ => (none, w)
      return value :: (← listValues fuel)
    | .sign "\n" => listValues fuel
    | .sign ")" => return []
    | .finish => failWith (.unclosed ')' "")
    | t => unexpected t none

def peek (fuel : Nat) : Reader Token :=
  match fuel with
  | 0 => failWith (.other "too long")
  | fuel + 1 => do
    match (← get).ahead with
    | some t => return t
    | none =>
      let t ← token fuel
      modify fun s => { s with ahead := some t }
      return t

def next (fuel : Nat) : Reader Token :=
  match fuel with
  | 0 => failWith (.other "too long")
  | fuel + 1 => do
    let t ← peek fuel
    modify fun s => { s with ahead := none }
    return t

/-- the next token that is no line end -/
def peekOver (fuel : Nat) : Reader Token :=
  match fuel with
  | 0 => failWith (.other "too long")
  | fuel + 1 => do
    match ← peek fuel with
    | .sign "\n" => do
      modify fun s => { s with ahead := none }
      peekOver fuel
    | t => return t

/-- takes a keyword, over line ends -/
def expect (fuel : Nat) (keyword : String) : Reader Unit :=
  match fuel with
  | 0 => failWith (.other "too long")
  | fuel + 1 => do
    let t ← peekOver fuel
    if t.keyword? = some keyword then modify fun s => { s with ahead := none }
    else unexpected t (some ("\"" ++ keyword ++ "\""))

/-- commands up to the end or something that closes them; `started` if there may be none -/
def commands (fuel : Nat) (started : Bool) : Reader Script :=
  match fuel with
  | 0 => failWith (.other "too long")
  | fuel + 1 => do
    let t ← peekOver fuel
    let closes := match t with
      | .sign s => [")", ";;", ";&", ";;&"].contains s
      | .word _ => (t.keyword?).any ["then", "elif", "else", "fi", "do", "done", "esac", "\x7d"].contains
      | _ => false
    match t with
    | .finish => return .skip
    | _ =>
      if started && closes then return .skip
      else do
        let first ← joined fuel
        match ← peek fuel with
        | .sign "&" => do
          let _ ← next fuel
          return .seq (.background first) (← commands fuel true)
        | .sign ";" | .sign "\n" => do
          let _ ← next fuel
          let more ← commands fuel true
          return match more with
            | .skip => first
            | _ => .seq first more
        | _ => return first

/-- commands joined by `&&` and `||`, the earlier ones first -/
def joined (fuel : Nat) : Reader Script :=
  match fuel with
  | 0 => failWith (.other "too long")
  | fuel + 1 => do joinMore fuel (← pipeline fuel)

def joinMore (fuel : Nat) (first : Script) : Reader Script :=
  match fuel with
  | 0 => failWith (.other "too long")
  | fuel + 1 => do
    match ← peek fuel with
    | .sign "&&" => do
      let _ ← next fuel
      let _ ← peekOver fuel
      joinMore fuel (.both first (← pipeline fuel))
    | .sign "||" => do
      let _ ← next fuel
      let _ ← peekOver fuel
      joinMore fuel (.either first (← pipeline fuel))
    | _ => return first

/-- a command, or several with pipes in between -/
def pipeline (fuel : Nat) : Reader Script :=
  match fuel with
  | 0 => failWith (.other "too long")
  | fuel + 1 => do
    if (← peek fuel).keyword? = some "!" then do
      let _ ← next fuel
      match ← isExtended, ← peek fuel with
      | true, .sign ";" | true, .sign "\n" | true, .finish => return .negate (.simple (← get).line [] [] [])
      | true, t => if t.keyword? = some "!" then return .negate (← pipeline fuel) else return .negate (← stages fuel)
      | false, _ => return .negate (← stages fuel)
    else stages fuel

def stages (fuel : Nat) : Reader Script :=
  match fuel with
  | 0 => failWith (.other "too long")
  | fuel + 1 => do
    let first ← command fuel
    match ← moreStages fuel first with
    | [one] => return one
    | all => return .pipe all

def moreStages (fuel : Nat) (first : Script) : Reader (List Script) :=
  match fuel with
  | 0 => failWith (.other "too long")
  | fuel + 1 => do
    match ← peek fuel with
    | .sign "|" => do
      let _ ← next fuel
      let _ ← peekOver fuel
      return first :: (← moreStages fuel (← command fuel))
    | .sign "|&" => do
      let _ ← next fuel
      let _ ← peekOver fuel
      let both := Script.redirect (← get).line first [.copy 2 [.text ['1'] true]]
      return both :: (← moreStages fuel (← command fuel))
    | _ => return [first]

/-- redirections, one after the other -/
def redirections (fuel : Nat) : Reader (List Redirection) :=
  match fuel with
  | 0 => failWith (.other "too long")
  | fuel + 1 => do
    match ← peek fuel with
    | .redirect stream s => do
      let _ ← next fuel
      let r ← redirection fuel stream s
      return r :: (← redirections fuel)
    | _ => return []

/-- a redirection after its sign -/
def redirection (fuel : Nat) (stream : Option Nat) (s : String) : Reader Redirection :=
  match fuel with
  | 0 => failWith (.other "too long")
  | fuel + 1 => do
    match ← next fuel with
    | .word w =>
      match s with
      | "<" => return .file (stream.getD 0) .read w
      | ">" => return .file (stream.getD 1) .write w
      | ">|" => return .force (stream.getD 1) w
      | ">>" => return .file (stream.getD 1) .append w
      | "<>" => return .file (stream.getD 0) .both w
      | "&>" => return .outputs false w
      | "&>>" => return .outputs true w
      | "<<<" => return .document (stream.getD 0) (w ++ [.text ['\n'] true])
      | "<&" => return .copy (stream.getD 0) w
      | ">&" =>
        let isTarget := match bareText? w with
          | some t => t = "-" || t.toList.all Char.isDigit
          | none => true
        if (← isExtended) && stream.isNone && !isTarget then return .outputs false w
        else return .copy (stream.getD 1) w
      | _ => do
        let mark := w.flatMap fun
          | .text s _ => s
          | .parameter name _ _ _ => '$' :: name.toList
          | _ => []
        let literal := w.any fun
          | .text _ quoted => quoted
          | _ => false
        let line := (← get).line
        let body ← takeDocument mark (s = "<<-")
        if literal then return .document (stream.getD 0) [.text body true]
        else
          match (segment fuel .document).run { rest := body, line, dialect := (← get).dialect } with
          | .ok (parts, _) => return .document (stream.getD 0) (joinTexts parts)
          | .error e => throw e
    | t => unexpected t none

/-- one command -/
def command (fuel : Nat) : Reader Script :=
  match fuel with
  | 0 => failWith (.other "too long")
  | fuel + 1 => do
    unalias fuel
    let t ← peek fuel
    let line := (← get).line
    let extended ← isExtended
    let wrap := fun (body : Script) => (do
      match ← redirections fuel with
      | [] => return body
      | rs => return .redirect line body rs : Reader Script)
    match t with
    | .sign "(" => do
      let before ← get
      let _ ← next fuel
      let plain : Reader Script := do
        let body ← commands fuel false
        match ← peekOver fuel with
        | .sign ")" => do
          let _ ← next fuel
          wrap (.separate line body)
        | t => unexpected t (some "\")\"")
      if extended && before.rest.head? = some '(' then
        let sum : Reader Script := do
          drop 1
          let e ← segment fuel (.sum 0)
          wrap (.calculate line (joinTexts e))
        match sum.run (← get) with
        | .ok (script, s) => do
          set s
          return script
        | .error _ => plain
      else plain
    | .word w =>
      match t.keyword? with
      | some "if" => do
        let _ ← next fuel
        wrap (← conditional fuel)
      | some "while" => do
        let _ ← next fuel
        wrap (← looping fuel false)
      | some "until" => do
        let _ ← next fuel
        wrap (← looping fuel true)
      | some "for" => do
        let _ ← next fuel
        wrap (← forEach fuel line)
      | some "case" => do
        let _ ← next fuel
        match ← next fuel with
        | .word subject => do
          expect fuel "in"
          let arms ← arms fuel
          wrap (.choose line subject arms)
        | t => unexpected t (some "word")
      | some "\x7b" => do
        let _ ← next fuel
        let body ← commands fuel false
        expect fuel "\x7d"
        wrap body
      | some _ => unexpected t none
      | none =>
        match extended, bareText? w with
        | true, some "function" => do
          let _ ← next fuel
          match ← next fuel with
          | .word name => do
            match ← peek fuel with
            | .sign "(" => do
              let _ ← next fuel
              match ← next fuel with
              | .sign ")" => pure ()
              | t => unexpected t none
            | _ => pure ()
            let _ ← peekOver fuel
            return .define (textOf name) (← command fuel)
          | t => unexpected t none
        | true, some "[[" => do
          let _ ← next fuel
          let condition ← judgement fuel
          match ← peekOver fuel with
          | .word w =>
            if bareText? w = some "]]" then do
              let _ ← next fuel
              wrap (.judge line condition)
            else unexpected (.word w) none
          | t => unexpected t none
        | true, some "time" => do
          let _ ← next fuel
          command fuel
        | true, some "select" => do
          let _ ← next fuel
          match ← forEach fuel line with
          | .each line name values body => wrap (.select line name values body)
          | other => return other
        | _, _ => simple fuel line .nothing
    | .list _ _ _ | .redirect _ _ => simple fuel line .nothing
    | _ => unexpected t none

/-- `NAME=VALUE`, perhaps for one place of a list -/
def assignment? (w : Word) : Reader (Option Assignment) := do
  match w with
  | .text s false :: rest =>
    let name := s.takeWhile isNameChar
    let after := s.drop name.length
    let extended ← isExtended
    let make := fun (index : Option Word) (append : Bool) (value : List Char) =>
      Assignment.text (String.ofList name) index append
        (if value = [] then rest else .text value false :: rest)
    let place := fun (key : Word) (append : Bool) (value : List Char) (after : Word) =>
      Assignment.text (String.ofList name) (some (joinTexts key)) append
        (if value = [] then after else .text value false :: after)
    if !isName name then return none
    else
      match after with
      | '=' :: value => return some (make none false value)
      | '+' :: '=' :: value => if extended then return some (make none true value) else return none
      | '[' :: inner =>
        match extended, cutIndex (.text inner false :: rest) with
        | true, some (key, .text ('=' :: value) false :: after) => return some (place key false value after)
        | true, some (key, .text ('+' :: '=' :: value) false :: after) => return some (place key true value after)
        | _, _ => return none
      | _ => return none
  | _ => return none

/-- puts the text in the place of a word that stands for another one -/
def unalias (fuel : Nat) : Reader Unit :=
  match fuel with
  | 0 => failWith (.other "too long")
  | fuel + 1 => do
    match (← get).aliases, ← peek fuel with
    | [], _ => pure ()
    | aliases, .word w =>
      let s ← get
      let isBusy := fun (name : String) => s.expanding.any fun e => e.1 = name && s.rest.length ≥ e.2
      match (bareText? w).bind fun name => aliases.find? (·.1 = name) with
      | some (name, text) =>
        if isBusy name then pure ()
        else do
          set { s with
            ahead := none, rest := text.toList ++ s.rest, expanding := (name, s.rest.length) :: s.expanding }
          unalias fuel
      | none => pure ()
    | _, _ => pure ()

/-- a simple command, or the definition of a function -/
def simple (fuel line : Nat) (progress : Progress) : Reader Script :=
  match fuel with
  | 0 => failWith (.other "too long")
  | fuel + 1 => do
    if progress = .settings then unalias fuel
    let further := if progress = .words then Progress.words else .settings
    match ← peek fuel with
    | .redirect stream s => do
      let _ ← next fuel
      let r ← redirection fuel stream s
      addTo (← simple fuel line further) fun assignments words rs => .simple line assignments words (r :: rs)
    | .list name append values => do
      let _ ← next fuel
      if progress = .words then
        addTo (← simple fuel line .words) fun assignments words rs =>
          .simple line assignments ([.declared (.list name append values)] :: words) rs
      else
        addTo (← simple fuel line .settings) fun assignments words rs =>
          .simple line (.list name append values :: assignments) words rs
    | .word w => do
      let _ ← next fuel
      match ← (if progress = .words then pure none else assignment? w) with
      | some a =>
        addTo (← simple fuel line .settings) fun assignments words rs => .simple line (a :: assignments) words rs
      | none =>
        match progress, ← peek fuel with
        | .nothing, .sign "(" => do
          let _ ← next fuel
          match ← next fuel with
          | .sign ")" => do
            let name := textOf w
            if !(← isExtended) && !isName name.toList then failWith (.other "Bad function name")
            let _ ← peekOver fuel
            match ← isExtended, ← peek fuel with
            | true, .word body =>
              if (Token.word body).keyword?.isNone && bareText? body ≠ some "[[" then unexpected (.word body) none
              else return .define name (← command fuel)
            | _, _ => return .define name (← command fuel)
          | t => unexpectedWord t (some "\")\"")
        | .settings, .sign "(" => unexpected (.sign "(") none
        | _, _ =>
          addTo (← simple fuel line .words) fun assignments words rs => .simple line assignments (w :: words) rs
    | _ => return .simple line [] [] []

/-- after `if` or `elif` -/
def conditional (fuel : Nat) : Reader Script :=
  match fuel with
  | 0 => failWith (.other "too long")
  | fuel + 1 => do
    let condition ← commands fuel false
    expect fuel "then"
    let yes ← commands fuel false
    let t ← peekOver fuel
    match t.keyword? with
    | some "elif" => do
      let _ ← next fuel
      return .branch condition yes (← conditional fuel)
    | some "else" => do
      let _ ← next fuel
      let no ← commands fuel false
      expect fuel "fi"
      return .branch condition yes no
    | _ => do
      expect fuel "fi"
      return .branch condition yes .skip

/-- after `while` or `until` -/
def looping (fuel : Nat) (negated : Bool) : Reader Script :=
  match fuel with
  | 0 => failWith (.other "too long")
  | fuel + 1 => do
    let condition ← commands fuel false
    expect fuel "do"
    let body ← commands fuel false
    expect fuel "done"
    return .loop negated condition body

/-- after `for` -/
def forEach (fuel line : Nat) : Reader Script :=
  match fuel with
  | 0 => failWith (.other "too long")
  | fuel + 1 => do
    match ← peek fuel with
    | .sign "(" =>
      if (← isExtended) && (← get).rest.head? = some '(' then do
        let _ ← next fuel
        drop 1
        let start ← segment fuel (.piece ';')
        drop 1
        let condition ← segment fuel (.piece ';')
        drop 1
        let step ← segment fuel (.sum 0)
        match ← peek fuel with
        | .sign ";" => do
          let _ ← next fuel
        | _ => pure ()
        expect fuel "do"
        let body ← commands fuel false
        expect fuel "done"
        return .count (joinTexts start) (joinTexts condition) (joinTexts step) body
      else if ← isExtended then unexpected (.sign "(") none
      else failWith (.other "Bad for loop variable")
    | .word w => do
      let _ ← next fuel
      let good := match bareText? w with
        | some s => isName s.toList
        | none => false
      if !good && !(← isExtended) then failWith (.other "Bad for loop variable")
      let t ← peekOver fuel
      let values ← if t.keyword? = some "in" then do
          let _ ← next fuel
          let ws ← lineWords fuel
          match ← next fuel with
          | .sign ";" | .sign "\n" => pure (some ws)
          | t => unexpected t none
        else do
          match t with
          | .sign ";" => do
            let _ ← next fuel
            pure none
          | _ => pure none
      expect fuel "do"
      let body ← commands fuel false
      expect fuel "done"
      return .each line (textOf w) values body
    | _ => failWith (.other "Bad for loop variable")

/-- words up to something that is none -/
def lineWords (fuel : Nat) : Reader (List Word) :=
  match fuel with
  | 0 => failWith (.other "too long")
  | fuel + 1 => do
    match ← peek fuel with
    | .word w => do
      let _ ← next fuel
      return w :: (← lineWords fuel)
    | _ => return []

/-- the arms of a choice, with the word that ends it -/
def arms (fuel : Nat) : Reader (List Arm) :=
  match fuel with
  | 0 => failWith (.other "too long")
  | fuel + 1 => do
    let t ← peekOver fuel
    if t.keyword? = some "esac" then do
      let _ ← next fuel
      return []
    else do
      match t with
      | .sign "(" => do
        let _ ← next fuel
      | _ => pure ()
      let patterns ← armPatterns fuel
      match ← next fuel with
      | .sign ")" => pure ()
      | t => unexpected t (some "\")\"")
      let body ← commands fuel true
      let t ← peekOver fuel
      match t with
      | .sign ";;" => do
        let _ ← next fuel
        return .mk patterns body .done :: (← arms fuel)
      | .sign ";&" => do
        let _ ← next fuel
        return .mk patterns body .nextBody :: (← arms fuel)
      | .sign ";;&" => do
        let _ ← next fuel
        return .mk patterns body .nextTest :: (← arms fuel)
      | _ =>
        if t.keyword? = some "esac" then do
          let _ ← next fuel
          return [.mk patterns body .done]
        else unexpected t (some "\";;\"")

def armPatterns (fuel : Nat) : Reader (List Word) :=
  match fuel with
  | 0 => failWith (.other "too long")
  | fuel + 1 => do
    match ← next fuel with
    | .word w =>
      match ← peek fuel with
      | .sign "|" => do
        let _ ← next fuel
        return w :: (← armPatterns fuel)
      | _ => return [w]
    | .finish => unexpected .finish (some "\")\"")
    | t => unexpected t none

def judgement (fuel : Nat) : Reader Judgement :=
  match fuel with
  | 0 => failWith (.other "too long")
  | fuel + 1 => do
    let first ← judgementAnd fuel
    match ← peekOver fuel with
    | .sign "||" => do
      let _ ← next fuel
      return .either first (← judgement fuel)
    | _ => return first

def judgementAnd (fuel : Nat) : Reader Judgement :=
  match fuel with
  | 0 => failWith (.other "too long")
  | fuel + 1 => do
    let first ← judgementTerm fuel
    match ← peekOver fuel with
    | .sign "&&" => do
      let _ ← next fuel
      return .both first (← judgementAnd fuel)
    | _ => return first

def judgementTerm (fuel : Nat) : Reader Judgement :=
  match fuel with
  | 0 => failWith (.other "too long")
  | fuel + 1 => do
    match ← peekOver fuel with
    | .sign "(" => do
      let _ ← next fuel
      let inner ← judgement fuel
      match ← peekOver fuel with
      | .sign ")" => do
        let _ ← next fuel
        return inner
      | t => unexpected t none
    | .word w => do
      let _ ← next fuel
      if bareText? w = some "!" then return .negate (← judgementTerm fuel)
      else
        let isUnary := match bareText? w with
          | some s => s.length = 2 && s.startsWith "-" && (s.toList.drop 1).all fun c => "abcdefghknoprstuvwxzGLNORS".toList.contains c
          | none => false
        let wrongOperand := fun (kind : String) => (do
          let _ ← next fuel
          let tick := String.ofList [backquote]
          let near ← peek fuel
          failWith (.condition ("unexpected argument " ++ tick ++ "]]' to conditional " ++ kind ++ " operator")
            near.extendedName) : Reader Judgement)
        if isUnary then
          match ← peek fuel with
          | .word operand =>
            if bareText? operand = some "]]" then wrongOperand "unary"
            else do
              let _ ← next fuel
              return .unary (textOf w) operand
          | _ => return .word w
        else
          match ← peek fuel with
          | .redirect none s =>
            if s = "<" || s = ">" then do
              let _ ← next fuel
              match ← next fuel with
              | .word b => return .binary w s b
              | t => unexpected t none
            else return .word w
          | .word op =>
            match bareText? op with
            | some "]]" => return .word w
            | some "=~" => do
              modify fun s => { s with ahead := none, rest := s.rest.dropWhile fun c => c = ' ' || c = '\t' }
              let pattern ← segment fuel (.regex 0)
              return .binary w "=~" (joinTexts pattern)
            | some s =>
              if !conditionOperators.contains s then failWith (.condition "conditional binary operator expected" s)
              else do
                let _ ← next fuel
                let groups := (← get).groups
                modify fun s => { s with groups := true }
                let operand ← peek fuel
                modify fun s => { s with groups }
                match operand with
                | .word b =>
                  if bareText? b = some "]]" then wrongOperand "binary"
                  else do
                    let _ ← next fuel
                    return .binary w s b
                | t => unexpected t none
            | none => failWith (.condition "conditional binary operator expected" (textOf op))
          | _ => return .word w
    | t => unexpected t none

end

/-- one complete command: what stands up to the end of a line; nothing at the end of the text -/
def complete (fuel : Nat) : Reader (Option Script) :=
  match fuel with
  | 0 => failWith (.other "too long")
  | fuel + 1 => do
    match ← peek fuel with
    | .finish => return none
    | .sign "\n" => do
      let _ ← next fuel
      return some .skip
    | _ => do
      let first ← joined fuel
      let rest := (do
        match ← peek fuel with
        | .finish => return Script.skip
        | .sign "\n" => do
          let _ ← next fuel
          return .skip
        | _ => return (← complete fuel).getD .skip : Reader Script)
      match ← next fuel with
      | .sign "&" => return some (.seq (.background first) (← rest))
      | .sign ";" => return some (.seq first (← rest))
      | .sign "\n" | .finish => return some first
      | t => unexpected t none

/-- the fuel for a text -/
def fuelFor (cs : List Char) : Nat := 10 * cs.length + 100

end Reader

end Benchwork.Shell
