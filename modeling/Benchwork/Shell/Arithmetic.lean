/-
Sums in a script.

A sum is read and worked out in one pass, the weakest operators first. Numbers have 64 bits. A part that does not count,
such as the second operand of `0 && x`, is read with `live` off: it sets no variable and cannot divide by zero. The result
comes with the variables that were set. The two dialects differ in some operators and in the wording of complaints.
-/
import Benchwork.Number.Binary

namespace Benchwork.Shell

/-- which shell a script is for: the plain one, or the one with more commands -/
inductive Dialect where
  | plain
  | extended
  deriving DecidableEq, Repr

namespace Arithmetic

/-- a number cut down to 64 bits -/
def wrap (n : Int) : Int :=
  let half : Int := Number.twoTo 63
  (n + half) % (2 * half) - half

/-! ## Tokens -/

inductive Kind where
  | number (n : Int)
  /-- digits that do not belong to the base of the number -/
  | wrongNumber
  /-- a name, perhaps with a place in square brackets -/
  | name (s : String)
  | sign (s : String)
  deriving DecidableEq, Repr

/-- a token and the text from it on -/
structure Token where
  kind : Kind
  text : List Char
  deriving Repr

def isNameStart (c : Char) : Bool := c.isAlpha || c = '_'

def isNameChar (c : Char) : Bool := c.isAlphanum || c = '_'

/-- the value of a digit in bases up to 36 -/
def digitValue (c : Char) : Nat :=
  if c.isDigit then c.toNat - '0'.toNat
  else if c.isLower then c.toNat - 'a'.toNat + 10
  else if c.isUpper then c.toNat - 'A'.toNat + 10
  else 36

def valueIn (base : Nat) (cs : List Char) : Nat := cs.foldl (fun n c => n * base + digitValue c) 0

/-- as many digits of a base as there are -/
def digitsIn (base : Nat) (cs : List Char) : List Char := cs.takeWhile fun c => digitValue c < base

/-- a number at the start of a text, and how many characters it has -/
def numberAt (cs : List Char) : Nat × Nat :=
  match cs with
  | '0' :: x :: rest =>
    if (x = 'x' || x = 'X') && !(digitsIn 16 rest).isEmpty then
      (valueIn 16 (digitsIn 16 rest), (digitsIn 16 rest).length + 2)
    else (valueIn 8 (digitsIn 8 (x :: rest)), (digitsIn 8 (x :: rest)).length + 1)
  | _ => (valueIn 10 (digitsIn 10 cs), (digitsIn 10 cs).length)

/-- signs of both dialects, longer ones before their beginnings -/
def signs : List String :=
  ["<<=", ">>=", "&&", "||", "==", "!=", "<=", ">=", "<<", ">>", "+=", "-=", "*=", "/=", "%=", "&=", "|=", "^=", "+", "-",
   "*", "/", "%", "<", ">", "&", "|", "^", "!", "~", "?", ":", "=", "(", ")"]

def extendedSigns : List String := ["**", "++", "--", ","]

/-- what stands between square brackets, after the opening one -/
def bracketed (depth : Nat) : List Char → Option (List Char)
  | [] => none
  | '[' :: rest => (bracketed (depth + 1) rest).map ('[' :: ·)
  | ']' :: rest =>
    match depth with
    | 0 => some []
    | depth + 1 => (bracketed depth rest).map (']' :: ·)
  | c :: rest => (bracketed depth rest).map (c :: ·)

/-- the name and the place in a text such as `a[3]` -/
def cutPlace? (name : String) : Option (String × String) :=
  let cs := name.toList
  let start := cs.takeWhile (· ≠ '[')
  match cs.drop start.length with
  | _ :: inner => if inner.getLast? = some ']' then some (String.ofList start, String.ofList inner.dropLast) else none
  | [] => none

/-- the tokens of a text, up to one that is none -/
def scan (dialect : Dialect) (fuel : Nat) (cs : List Char) : List Token :=
  match fuel, cs with
  | 0, _ | _, [] => []
  | fuel + 1, c :: rest =>
    if c = ' ' || c = '\t' || c = '\n' then scan dialect fuel rest
    else if c = '"' && dialect = .extended then scan dialect fuel rest
    else if c.isDigit then
      let (n, size) := numberAt cs
      let based := cs.takeWhile Char.isDigit
      let after := cs.drop based.length
      if dialect = .extended && after.head? = some '#' then
        let base := valueIn 10 based
        let digits := digitsIn base after.tail
        ⟨.number (wrap (valueIn base digits)), cs⟩ :: scan dialect fuel (after.tail.drop digits.length)
      else if dialect = .extended && (cs.drop size).head?.any isNameChar then [⟨.wrongNumber, cs.takeWhile isNameChar⟩]
      else
        let value := if dialect = .plain then min (n : Int) (Number.twoTo 63 - 1 : Nat) else wrap n
        ⟨.number value, cs⟩ :: scan dialect fuel (cs.drop size)
    else if isNameStart c then
      let name := cs.takeWhile isNameChar
      let after := cs.dropWhile isNameChar
      match dialect, after.head?, bracketed 0 after.tail with
      | .extended, some '[', some inner =>
        ⟨.name (String.ofList (name ++ '[' :: inner ++ [']'])), cs⟩ :: scan dialect fuel (after.drop (inner.length + 2))
      | _, _, _ => ⟨.name (String.ofList name), cs⟩ :: scan dialect fuel after
    else
      let known := if dialect = .extended then extendedSigns ++ signs else signs
      match known.find? fun s => cs.take s.length = s.toList with
      | some s => ⟨.sign s, cs⟩ :: scan dialect fuel (cs.drop s.length)
      | none => [⟨.sign (String.singleton c), cs⟩]

/-! ## Working it out -/

structure Work where
  rest : List Token
  /-- variables that were set, the last one first -/
  settings : List (String × Int) := []

/-- why a sum has no value -/
inductive Complaint where
  | unset (name : String)
  | other (text : String)
  deriving DecidableEq, Repr

/-- where a sum stands: what its names mean, and what is to be worked out -/
structure Context where
  dialect : Dialect
  source : List Char
  lookup : String → Option String
  /-- the places of a variable have names -/
  isTable : String → Bool := fun _ => false
  /-- one more than the last place of a variable -/
  size : String → Nat := fun _ => 0
  /-- a variable without a value is not taken for zero -/
  strict : Bool := false

abbrev Sum := ReaderT Context (StateT Work (Except Complaint))

/-- gives up with a complaint in the words of the dialect; `token` is where it went wrong -/
def complain {α : Type} (plain extended : String) (token : List Char) : Sum α := do
  let c ← read
  let source := String.ofList c.source
  match c.dialect with
  | .plain => throw (.other ("arithmetic expression: " ++ plain ++ ": \"" ++ source ++ "\""))
  | .extended =>
    let shown := (source.toList.dropWhile fun c => c = ' ' || c = '\t')
    throw (.other (String.ofList shown ++ ": " ++ extended ++ " (error token is \"" ++ String.ofList token ++ "\")"))

def peek : Sum (Option Kind) := do return ((← get).rest.head?).map (·.kind)

/-- the text that is left -/
def remaining : Sum (List Char) := do return (((← get).rest.head?).map (·.text)).getD []

def skip : Sum Unit := modify fun w => { w with rest := w.rest.tail }

def truth (b : Bool) : Int := if b then 1 else 0

/-- how strongly an operator binds -/
def level? : String → Option Nat
  | "||" => some 1
  | "&&" => some 2
  | "|" => some 3
  | "^" => some 4
  | "&" => some 5
  | "==" | "!=" => some 6
  | "<" | "<=" | ">" | ">=" => some 7
  | "<<" | ">>" => some 8
  | "+" | "-" => some 9
  | "*" | "/" | "%" => some 10
  | "**" => some 11
  | _ => none

/-- the bits of a number as a natural number -/
def bits (n : Int) : Nat := (n % (Number.twoTo 64 : Int)).toNat

/-- an operator on two numbers; `token` is where the second one begins -/
def apply (live : Bool) (op : String) (a b : Int) (token : List Char) : Sum Int :=
  match op with
  | "||" => return truth (a ≠ 0 || b ≠ 0)
  | "&&" => return truth (a ≠ 0 && b ≠ 0)
  | "|" => return wrap (bits a ||| bits b)
  | "^" => return wrap (bits a ^^^ bits b)
  | "&" => return wrap (bits a &&& bits b)
  | "==" => return truth (a = b)
  | "!=" => return truth (a ≠ b)
  | "<" => return truth (a < b)
  | "<=" => return truth (a ≤ b)
  | ">" => return truth (a > b)
  | ">=" => return truth (a ≥ b)
  | "<<" => return wrap (a * Number.twoTo ((b % 64).toNat))
  | ">>" => return a / Number.twoTo ((b % 64).toNat)
  | "+" => return wrap (a + b)
  | "-" => return wrap (a - b)
  | "*" => return wrap (a * b)
  | "**" => return wrap ((List.range b.toNat).foldl (fun n _ => wrap (n * a)) 1)
  | _ =>
    if b = 0 then
      if live then complain "division by zero" "division by 0" token else return 0
    else return wrap (if op = "/" then a.tdiv b else a.tmod b)

/-- sets a variable -/
def assign (live : Bool) (name : String) (value : Int) : Sum Int := do
  if live then modify fun w => { w with settings := (name, value) :: w.settings }
  return value

/-- operators that set the variable before them, and the one that they apply first -/
def assignments : List (String × String) :=
  [("=", ""), ("+=", "+"), ("-=", "-"), ("*=", "*"), ("/=", "/"), ("%=", "%"), ("<<=", "<<"), (">>=", ">>"), ("&=", "&"),
   ("|=", "|"), ("^=", "^")]

/-- a whole number, as a variable may hold it -/
def wholeOf? (cs : List Char) : Option Int :=
  let trimmed := cs.dropWhile fun c => c = ' ' || c = '\t' || c = '\n'
  let body := match trimmed with
    | '-' :: rest => rest
    | '+' :: rest => rest
    | _ => trimmed
  let (n, size) := numberAt body
  let rest := (body.drop size).dropWhile fun c => c = ' ' || c = '\t' || c = '\n'
  if size = 0 || !rest.isEmpty then none
  else some (wrap (if trimmed.head? = some '-' then -(n : Int) else n))

mutual

/-- the value of a text that is a sum itself -/
def nested (fuel : Nat) (text : List Char) : Sum Int :=
  match fuel with
  | 0 => return 0
  | fuel + 1 => do
    let before ← get
    set { before with rest := scan .extended text.length.succ text }
    let value ← withReader (fun c => { c with source := text }) (sequence fuel true)
    modify fun w => { w with rest := before.rest }
    return value

/-- a name with its place worked out; a negative place counts from the end -/
def placed (fuel : Nat) (name : String) : Sum String :=
  match fuel with
  | 0 => return name
  | fuel + 1 => do
    match cutPlace? name with
    | none => return name
    | some (base, index) =>
      if (← read).isTable base then return name
      else do
        let i ← nested fuel index.toList
        let size := (← read).size base
        let i := if i < 0 then (size : Int) + i else i
        return base ++ "[" ++ toString i ++ "]"

/-- the value of a variable; in the larger dialect its text is a sum again -/
def variableValue (fuel : Nat) (name : String) : Sum Int :=
  match fuel with
  | 0 => return 0
  | fuel + 1 => do
    match (← get).settings.find? (·.1 = name) with
    | some (_, value) => return value
    | none =>
      let c ← read
      let text := (c.lookup name).getD ""
      if c.strict && (c.lookup name).isNone then throw (.unset name)
      else if text.toList.all fun c => c = ' ' || c = '\t' then return 0
      else
        match wholeOf? text.toList with
        | some n => return n
        | none =>
          match c.dialect with
          | .plain => throw (.other ("Illegal number: " ++ text))
          | .extended => nested fuel text.toList

/-- sums divided by commas -/
def sequence (fuel : Nat) (live : Bool) : Sum Int :=
  match fuel with
  | 0 => return 0
  | fuel + 1 => do
    let value ← choice fuel live
    if (← peek) = some (.sign ",") && (← read).dialect = .extended then
      skip
      sequence fuel live
    else return value

/-- a setting, or a choice between two sums -/
def choice (fuel : Nat) (live : Bool) : Sum Int :=
  match fuel with
  | 0 => return 0
  | fuel + 1 => do
    let rest := (← get).rest
    match rest with
    | ⟨.name name, _⟩ :: ⟨.sign s, _⟩ :: after =>
      match assignments.find? (·.1 = s) with
      | some (_, op) =>
        let name ← placed fuel name
        modify fun w => { w with rest := after }
        let token ← remaining
        let right ← choice fuel live
        if op = "" then assign live name right
        else do
          let left ← variableValue fuel name
          assign live name (← apply live op left right token)
      | none => conditional fuel live
    | _ => conditional fuel live

def conditional (fuel : Nat) (live : Bool) : Sum Int :=
  match fuel with
  | 0 => return 0
  | fuel + 1 => do
    let test ← climb fuel live 1
    if (← peek) = some (.sign "?") then
      skip
      let yes ← sequence fuel (live && test ≠ 0)
      if (← peek) = some (.sign ":") then
        skip
        let no ← choice fuel (live && test = 0)
        return (if test ≠ 0 then yes else no)
      else
        let c ← read
        let last := (scan c.dialect c.source.length.succ c.source).getLast?
        complain "expecting ':'" (String.singleton (Char.ofNat 96) ++ ":' expected for conditional expression")
          ((last.map (·.text)).getD [])
    else return test

/-- operators that bind at least as strongly as `least` -/
def climb (fuel : Nat) (live : Bool) (least : Nat) : Sum Int :=
  match fuel with
  | 0 => return 0
  | fuel + 1 => do
    let left ← unary fuel live
    climbOn fuel live least left

def climbOn (fuel : Nat) (live : Bool) (least : Nat) (left : Int) : Sum Int :=
  match fuel with
  | 0 => return left
  | fuel + 1 => do
    match ← peek with
    | some (.sign op) =>
      match level? op with
      | some level =>
        if level < least then return left
        else do
          skip
          let counts := if op = "&&" then left ≠ 0 else if op = "||" then left = 0 else true
          let token ← remaining
          let right ← climb fuel (live && counts) (if op = "**" then level else level + 1)
          let value ← apply (live && counts) op left right token
          climbOn fuel live least value
      | none => return left
    | _ => return left

/-- an operand with the signs before it -/
def unary (fuel : Nat) (live : Bool) : Sum Int :=
  match fuel with
  | 0 => return 0
  | fuel + 1 => do
    match (← get).rest with
    | ⟨.sign "!", _⟩ :: _ => do
      skip
      return truth ((← unary fuel live) = 0)
    | ⟨.sign "~", _⟩ :: _ => do
      skip
      return wrap (-(← unary fuel live) - 1)
    | ⟨.sign "-", _⟩ :: _ => do
      skip
      return wrap (-(← unary fuel live))
    | ⟨.sign "+", _⟩ :: _ => do
      skip
      unary fuel live
    | ⟨.sign "++", _⟩ :: ⟨.name name, _⟩ :: after => do
      let name ← placed fuel name
      modify fun w => { w with rest := after }
      assign live name (wrap ((← variableValue fuel name) + 1))
    | ⟨.sign "--", _⟩ :: ⟨.name name, _⟩ :: after => do
      let name ← placed fuel name
      modify fun w => { w with rest := after }
      assign live name (wrap ((← variableValue fuel name) - 1))
    | _ => primary fuel live

def primary (fuel : Nat) (live : Bool) : Sum Int :=
  match fuel with
  | 0 => return 0
  | fuel + 1 => do
    let token ← remaining
    match (← get).rest with
    | ⟨.number n, _⟩ :: after => do
      modify fun w => { w with rest := after }
      return n
    | ⟨.wrongNumber, _⟩ :: _ => complain "expecting primary" "value too great for base" token
    | ⟨.name name, _⟩ :: after => do
      let name ← placed fuel name
      modify fun w => { w with rest := after }
      let value ← variableValue fuel name
      match (← get).rest with
      | ⟨.sign "++", _⟩ :: after => do
        modify fun w => { w with rest := after }
        let _ ← assign live name (wrap (value + 1))
        return value
      | ⟨.sign "--", _⟩ :: after => do
        modify fun w => { w with rest := after }
        let _ ← assign live name (wrap (value - 1))
        return value
      | _ => return value
    | ⟨.sign "(", _⟩ :: after => do
      modify fun w => { w with rest := after }
      let value ← sequence fuel live
      if (← peek) = some (.sign ")") then
        skip
        return value
      else complain "expecting ')'" "missing ')'" (← remaining)
    | [] => complain "expecting primary" "syntax error: operand expected" (((← read).source.reverse.takeWhile
        (fun c => c ≠ ' ' && !isNameChar c)).reverse)
    | _ => complain "expecting primary" "syntax error: operand expected" token

end

/-- works out a whole sum: its value, and the variables that it sets in order -/
def evaluate (c : Context) : Except Complaint (Int × List (String × Int)) := do
  let tokens := scan c.dialect c.source.length.succ c.source
  if c.dialect = .extended && tokens.isEmpty then return (0, [])
  let fuel := 16 * tokens.length + 64
  let body : Sum Int := do
    let value ← sequence fuel true
    match (← get).rest with
    | [] => return value
    | t :: _ =>
      match t.kind with
      | .sign s =>
        if s = "=" || s = "+=" || s = "-=" then complain "expecting EOF" "attempted assignment to non-variable" t.text
        else if signs.contains s then complain "expecting EOF" "syntax error in expression" t.text
        else complain "expecting EOF" "syntax error: invalid arithmetic operator" t.text
      | .wrongNumber => complain "expecting EOF" "value too great for base" t.text
      | _ => complain "expecting EOF" "syntax error in expression" t.text
  let (value, work) ← (body.run c).run ⟨tokens, []⟩
  return (value, work.settings.reverse)

end Arithmetic

end Benchwork.Shell
