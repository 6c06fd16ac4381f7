/-
Reading JSON, with the place of the first mistake.

The reader goes over the text character by character and keeps the line, counted from one, and the column, counted in
bytes. A mistake is reported with the position right after the first byte of the character that is wrong, or at the end
of the text if it ends too early. Arrays and objects may be nested 127 deep.

The functions on nested values take a bound on the characters still to be read, which no text reaches.
-/
import Benchwork.Json.Number
import Benchwork.Ordered
import Benchwork.Text.Utf8

namespace Benchwork

/-- what can be wrong with a JSON text -/
inductive JsonFault where
  | endInValue
  | endInList
  | endInObject
  | endInString
  | expectedValue
  | expectedIdentifier
  | expectedColon
  | expectedListEnd
  | expectedObjectEnd
  | trailingComma
  | keyNotString
  | trailingCharacters
  | invalidNumber
  | numberOutOfRange
  | controlCharacter
  | invalidEscape
  | loneSurrogate
  | unpairedSurrogate
  | tooDeep
  | notAList (found : Json)
  deriving DecidableEq

namespace JsonFault

def message : JsonFault → String
  | .endInValue => "EOF while parsing a value"
  | .endInList => "EOF while parsing a list"
  | .endInObject => "EOF while parsing an object"
  | .endInString => "EOF while parsing a string"
  | .expectedValue => "expected value"
  | .expectedIdentifier => "expected ident"
  | .expectedColon => "expected `:`"
  | .expectedListEnd => "expected `,` or `]`"
  | .expectedObjectEnd => "expected `,` or `\x7d`"
  | .trailingComma => "trailing comma"
  | .keyNotString => "key must be a string"
  | .trailingCharacters => "trailing characters"
  | .invalidNumber => "invalid number"
  | .numberOutOfRange => "number out of range"
  | .controlCharacter => "control character (\\u0000-\\u001F) found while parsing a string"
  | .invalidEscape => "invalid escape"
  | .loneSurrogate => "lone leading surrogate in hex escape"
  | .unpairedSurrogate => "unexpected end of hex escape"
  | .tooDeep => "recursion limit exceeded"
  | .notAList found => "invalid type: " ++ found.describe ++ ", expected a sequence"

end JsonFault

/-- a mistake and its place -/
structure JsonError where
  fault : JsonFault
  line : Nat
  column : Nat
  deriving DecidableEq

def JsonError.message (e : JsonError) : String := s!"{e.fault.message} at line {e.line} column {e.column}"

namespace JsonReader

/-- what is left of the text, and how far the reader is -/
structure Cursor where
  rest : List Char
  line : Nat := 1
  column : Nat := 0

/-- a reader takes characters off the text and gives a value, or finds a mistake -/
abbrev Reader (α : Type) := StateT Cursor (Except JsonError) α

namespace Cursor

/-- the cursor after its next character -/
def next (c : Cursor) : Cursor :=
  match c.rest with
  | [] => c
  | '\n' :: rest => ⟨rest, c.line + 1, 0⟩
  | x :: rest => ⟨rest, c.line, c.column + x.utf8Size⟩

/-- the cursor `n` bytes into `rest`; it may end inside a character -/
def advance (line column : Nat) : Nat → List Char → Cursor
  | _, [] => ⟨[], line, column⟩
  | 0, rest => ⟨rest, line, column⟩
  | n + 1, x :: rest =>
    if x = '\n' then advance (line + 1) 0 n rest
    else advance line (column + min (n + 1) x.utf8Size) (n + 1 - x.utf8Size) rest

/-- the cursor after `n` bytes -/
def skipBytes (c : Cursor) (n : Nat) : Cursor := advance c.line c.column n c.rest

/-- a mistake right here -/
def here (c : Cursor) (fault : JsonFault) : JsonError := ⟨fault, c.line, c.column⟩

/-- a mistake in the first byte of the next character -/
def after (c : Cursor) (fault : JsonFault) : JsonError := (c.skipBytes 1).here fault

end Cursor

/-! ## Characters -/

def peek : Reader (Option Char) := do return (← get).rest.head?

def skip : Reader Unit := modify Cursor.next

/-- fails at the place reached -/
def failHere {α : Type} (fault : JsonFault) : Reader α := do throw ((← get).here fault)

/-- fails at the next character -/
def failNext {α : Type} (fault : JsonFault) : Reader α := do throw ((← get).after fault)

/-- fails after `n` more bytes -/
def failAfter {α : Type} (n : Nat) (fault : JsonFault) : Reader α := do throw (((← get).skipBytes n).here fault)

def isGap (c : Char) : Bool := c = ' ' || c = '\t' || c = '\n' || c = '\r'

/-- takes the characters for as long as `p` holds, and gives them -/
def takeWhile (p : Char → Bool) : Reader (List Char) := do
  let c ← get
  let taken := c.rest.takeWhile p
  set (taken.foldl (fun c _ => c.next) c)
  return taken

/-- the next character that is no gap, which stays -/
def peekToken : Reader (Option Char) := do
  let _ ← takeWhile isGap
  peek

/-! ## Literals and numbers -/

/-- the rest of a literal -/
def ident : List Char → Reader Unit
  | [] => return ()
  | want :: more => do
    match ← peek with
    | none => failHere .endInValue
    | some c => if c = want then do skip; ident more else failNext .expectedIdentifier

def digit? (c : Option Char) : Option Nat :=
  match c with
  | some c => if '0' ≤ c ∧ c ≤ '9' then some (c.toNat - 48) else none
  | none => none

def isDigit (c : Char) : Bool := (digit? (some c)).isSome

/-- gathers digits into a significand that stays within 64 bits; gives it with the count of digits taken -/
def gather (significand : Nat) : List Char → Nat × Nat
  | [] => (significand, 0)
  | c :: rest =>
    let s := significand * 10 + (c.toNat - 48)
    if s > JsonNumber.top then (significand, 0)
    else
      let (s, n) := gather s rest
      (s, n + 1)

/-- takes `n` characters -/
def skipMany (n : Nat) : Reader Unit := modify fun c => (List.range n).foldl (fun c _ => c.next) c

/-- the number, or the mistake that it is too large -/
def finish (negative : Bool) (significand : Nat) (exponent : Int) : Reader JsonNumber :=
  match JsonNumber.ofParts? negative significand exponent with
  | some n => return n
  | none => failHere .numberOutOfRange

/-- the largest 32-bit integer -/
def topExponent : Nat := Number.twoTo 31 - 1

/-- gathers the digits of an exponent that stays within 32 bits; none if it does not, after the digit too many -/
def gatherExponent (e : Nat) : List Char → Option Nat × Nat
  | [] => (some e, 0)
  | c :: rest =>
    let e := e * 10 + (c.toNat - 48)
    if e > topExponent then (none, 1)
    else
      let (r, n) := gatherExponent e rest
      (r, n + 1)

/-- within the 32-bit integers -/
def clip32 (n : Int) : Int := max (-(topExponent : Int) - 1) (min n topExponent)

/-- the part of a number from its `e` on -/
def exponentPart (negative : Bool) (significand : Nat) (start : Int) : Reader JsonNumber := do
  skip
  let sign ← peek
  let down := sign = some '-'
  if sign = some '+' || sign = some '-' then skip
  let first ← peek
  match digit? first with
  | none => if first.isNone then failHere .endInValue else failNext .invalidNumber
  | some d =>
    skip
    let (e?, taken) := gatherExponent d ((← get).rest.takeWhile isDigit)
    skipMany taken
    match e? with
    | some e => finish negative significand (clip32 (if down then start - e else start + e))
    | none =>
      if significand ≠ 0 ∧ !down then failHere .numberOutOfRange
      else
        let _ ← takeWhile isDigit
        return .float (if negative then -0.0 else 0.0)

def isExponentMark (c : Option Char) : Bool := c = some 'e' || c = some 'E'

/-- the part of a number from its decimal point on -/
def decimalPart (negative : Bool) (significand : Nat) (start : Int) : Reader JsonNumber := do
  skip
  let digits := (← get).rest.takeWhile isDigit
  let (significand, taken) := gather significand digits
  skipMany digits.length
  if digits = [] then
    if (← peek).isNone then failHere .endInValue else failNext .invalidNumber
  else
    let exponent := start - taken
    if isExponentMark (← peek) then exponentPart negative significand exponent
    else finish negative significand exponent

/-- a number, its sign apart -/
def number (negative : Bool) : Reader JsonNumber := do
  let first ← peek
  match digit? first with
  | none => if first.isNone then failHere .endInValue else failNext .invalidNumber
  | some d =>
    skip
    if d = 0 ∧ (digit? (← peek)).isSome then failNext .invalidNumber
    else
      let digits := (← get).rest.takeWhile isDigit
      let (significand, taken) := gather d digits
      skipMany digits.length
      let exponent : Int := digits.length - taken
      let mark ← peek
      if mark = some '.' then decimalPart negative significand exponent
      else if isExponentMark mark then exponentPart negative significand exponent
      else if taken < digits.length then finish negative significand exponent
      else return JsonNumber.ofWhole negative significand

/-! ## Strings -/

def hexDigit? (c : Char) : Option Nat :=
  if '0' ≤ c ∧ c ≤ '9' then some (c.toNat - 48)
  else if 'a' ≤ c ∧ c ≤ 'f' then some (c.toNat - 87)
  else if 'A' ≤ c ∧ c ≤ 'F' then some (c.toNat - 55)
  else none

/-- four hexadecimal digits -/
def hexUnit : Reader Nat := do
  let c ← get
  let bytes := (c.rest.take 4).foldl (fun n x => n + x.utf8Size) 0
  if bytes < 4 then
    let _ ← takeWhile fun _ => true
    failHere .endInString
  else
    match (c.rest.take 4).mapM hexDigit? with
    | some ds =>
      skipMany 4
      return ds.foldl (fun n d => n * 16 + d) 0
    | none => failAfter 4 .invalidEscape

/-- takes the character `want`, which has to follow the first half of a pair -/
def pairMark (want : Char) : Reader Unit := do
  match ← peek with
  | none => failHere .endInString
  | some c => if c = want then skip else failNext .unpairedSurrogate

/-- the character of a hexadecimal escape, or of two that make a pair -/
def hexChar : Reader Char := do
  let n ← hexUnit
  if 0xDC00 ≤ n ∧ n ≤ 0xDFFF then failHere .loneSurrogate
  else if n < 0xD800 ∨ 0xDBFF < n then return Char.ofNat n
  else
    pairMark '\\'
    pairMark 'u'
    let m ← hexUnit
    if m < 0xDC00 ∨ 0xDFFF < m then failHere .loneSurrogate
    else return Char.ofNat ((n - 0xD800) * 1024 + (m - 0xDC00) + 0x10000)

/-- the character that an escape stands for, its backslash apart -/
def escape : Reader Char := do
  match ← peek with
  | none => failHere .endInString
  | some 'u' => do skip; hexChar
  | some '"' => do skip; return '"'
  | some '\\' => do skip; return '\\'
  | some '/' => do skip; return '/'
  | some 'b' => do skip; return Char.ofNat 8
  | some 'f' => do skip; return Char.ofNat 12
  | some 'n' => do skip; return '\n'
  | some 'r' => do skip; return '\r'
  | some 't' => do skip; return '\t'
  | some _ => failNext .invalidEscape

/-- the rest of a string, after `seen` in reverse -/
def stringRest : Nat → List Char → Reader String
  | 0, seen => return String.ofList seen.reverse
  | bound + 1, seen => do
    match ← peek with
    | none => failHere .endInString
    | some '"' => do skip; return String.ofList seen.reverse
    | some '\\' => do
      skip
      let c ← escape
      stringRest bound (c :: seen)
    | some c =>
      if c.toNat < 0x20 then failNext .controlCharacter
      else do
        skip
        stringRest bound (c :: seen)

/-- a string from its opening quotation mark on -/
def string : Reader String := do
  skip
  stringRest ((← get).rest.length + 1) []

/-! ## Values -/

/-- what stands before the next item of a list: true if there is one -/
def nextItem (first : Bool) : Reader Bool := do
  match ← peekToken with
  | none => failHere .endInList
  | some ']' => do skip; return false
  | some ',' =>
    if first then return true
    else do
      skip
      match ← peekToken with
      | none => failHere .endInValue
      | some ']' => failNext .trailingComma
      | some _ => return true
  | some _ => if first then return true else failNext .expectedListEnd

/-- what stands before the next field of an object: true if there is one -/
def nextField (first : Bool) : Reader Bool := do
  match ← peekToken with
  | none => failHere .endInObject
  | some '\x7d' => do skip; return false
  | some c =>
    if !first ∧ c ≠ ',' then failNext .expectedObjectEnd
    else do
      if !first then skip
      match ← peekToken with
      | some '"' => return true
      | some '\x7d' => failNext .trailingComma
      | some _ => failNext .keyNotString
      | none => failHere .endInValue

/-- the colon after the name of a field -/
def colon : Reader Unit := do
  match ← peekToken with
  | some ':' => skip
  | some _ => failNext .expectedColon
  | none => failHere .endInObject

mutual

/-- a value; `depth` arrays and objects may still be opened inside it -/
def value : Nat → Nat → Reader Json
  | 0, _ => failHere .endInValue
  | bound + 1, depth => do
    match ← peekToken with
    | none => failHere .endInValue
    | some 'n' => do skip; ident "ull".toList; return .null
    | some 't' => do skip; ident "rue".toList; return .bool true
    | some 'f' => do skip; ident "alse".toList; return .bool false
    | some '-' => do skip; return .number (← number true)
    | some '"' => return .string (← string)
    | some '[' =>
      if depth = 0 then failNext .tooDeep
      else do
        skip
        return .array (← items bound (depth - 1) true)
    | some '\x7b' =>
      if depth = 0 then failNext .tooDeep
      else do
        skip
        return .object (← fields bound (depth - 1) true [])
    | some c => if isDigit c then return .number (← number false) else failNext .expectedValue

/-- the items of a list up to its end -/
def items : Nat → Nat → Bool → Reader (List Json)
  | 0, _, _ => failHere .endInList
  | bound + 1, depth, first => do
    if ← nextItem first then
      let x ← value bound depth
      return x :: (← items bound depth false)
    else return []

/-- the fields of an object up to its end, put to those seen -/
def fields : Nat → Nat → Bool → List (String × Json) → Reader (List (String × Json))
  | 0, _, _, _ => failHere .endInObject
  | bound + 1, depth, first, seen => do
    if ← nextField first then
      let name ← string
      colon
      let x ← value bound depth
      fields bound depth false (Ordered.put name x seen)
    else return seen

end

/-! ## Documents -/

/-- arrays and objects that may stand inside each other -/
def depthLimit : Nat := 127

/-- a document that is a list; nothing but gaps may follow it -/
def list : Reader (List Json) := do
  let bound := 2 * (← get).rest.length + 2
  match ← peekToken with
  | none => failHere .endInValue
  | some '[' =>
    skip
    let xs ← items bound (depthLimit - 1) true
    match ← peekToken with
    | none => return xs
    | some _ => failNext .trailingCharacters
  | some '\x7b' => failHere (.notAList (.object []))
  | some _ =>
    let x ← value bound depthLimit
    failHere (.notAList x)

end JsonReader

/-- the items of a text that is a JSON list -/
def Json.readList (text : String) : Except JsonError (List Json) :=
  (JsonReader.list.run { rest := text.toList }).map (·.1)

end Benchwork
