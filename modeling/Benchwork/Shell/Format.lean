/-
Printing by a format.

A format is text with directives. A directive takes an argument and says how it is written: as text, as a whole number in
some base or as a decimal number, with a width, a precision and flags. The format is used again as long as arguments are
left. Backslashes are resolved in the format, and in the arguments of one kind of directive.

The plain shell, the extended shell and the tool of the same name differ in what they understand and in their complaints.
-/
import Benchwork.Number.Fixed
import Benchwork.Number.Whole
import Benchwork.Shell.Arithmetic
import Benchwork.Text.Octets

namespace Benchwork.Shell.Format

open Benchwork.Text Benchwork.Number

/-- who prints -/
inductive Manner where
  | plain
  | extended
  | tool
  deriving DecidableEq, Repr

/-! ## Backslashes -/

/-- the character that a letter stands for after a backslash -/
def escape? : Char → Option Char
  | 'n' => some '\n'
  | 't' => some '\t'
  | 'r' => some '\r'
  | 'a' => some (Char.ofNat 7)
  | 'b' => some (Char.ofNat 8)
  | 'e' => some (Char.ofNat 27)
  | 'f' => some (Char.ofNat 12)
  | 'v' => some (Char.ofNat 11)
  | '\\' => some '\\'
  | _ => none

def isOctal (c : Char) : Bool := '0' ≤ c && c ≤ '7'

def isHex (c : Char) : Bool := c.isDigit || ('a' ≤ c.toLower && c.toLower ≤ 'f')

/-- the first `n` characters of a kind -/
def leading (n : Nat) (kind : Char → Bool) (cs : List Char) : List Char := (cs.take n).takeWhile kind

/-- one byte of a number -/
def byteOf (n : Nat) : Char := Char.ofNat (n % 256)

/-- the character with a code point, in bytes -/
def codePoint (n : Nat) : List Char := (Octets.ofText (String.ofList [Char.ofNat n])).toList

/-- resolves what follows a backslash, in the text of an argument if `inArgument`; gives what it stands for and what
follows, or nothing if it ends the output -/
def unescape (manner : Manner) (inArgument : Bool) (cs : List Char) : Option (List Char × List Char) :=
  match cs with
  | [] => some (['\\'], [])
  | 'c' :: rest => if inArgument || manner = .tool then none else some (['\\', 'c'], rest)
  | c :: rest =>
    if isOctal c then
      let digits := if inArgument && c = '0' then leading 3 isOctal rest else leading 3 isOctal cs
      let used := if inArgument && c = '0' then digits.length + 1 else digits.length
      some ([byteOf (Arithmetic.valueIn 8 digits)], cs.drop used)
    else
      match escape? c with
      | some e => some ([e], rest)
      | none =>
        if manner = .plain then some (['\\', c], rest)
        else if c = 'x' then
          let digits := leading 2 isHex rest
          if digits.isEmpty then some (['\\', 'x'], rest)
          else some ([byteOf (Arithmetic.valueIn 16 (digits.map Char.toLower))], rest.drop digits.length)
        else if c = 'u' || c = 'U' then
          let digits := leading (if c = 'u' then 4 else 8) isHex rest
          if digits.isEmpty then some (['\\', c], rest)
          else some (codePoint (Arithmetic.valueIn 16 (digits.map Char.toLower)), rest.drop digits.length)
        else if c = '"' || (!inArgument && manner = .extended && (c = '\'' || c = '?')) then some ([c], rest)
        else some (['\\', c], rest)

/-- resolves the backslashes of an argument; the flag says that the output ends here -/
def unescapeAll (manner : Manner) (fuel : Nat) (cs : List Char) : List Char × Bool :=
  match fuel, cs with
  | 0, _ | _, [] => ([], false)
  | fuel + 1, '\\' :: rest =>
    match unescape manner true rest with
    | none => ([], true)
    | some (text, left) =>
      let (more, ended) := unescapeAll manner fuel left
      (text ++ more, ended)
  | fuel + 1, c :: rest =>
    let (more, ended) := unescapeAll manner fuel rest
    (c :: more, ended)

/-! ## Numbers -/

/-- the whole number at the start of a text, in any of the usual bases, and what follows it -/
def leadingWhole (cs : List Char) : Option Int × List Char :=
  let cs' := cs.dropWhile fun c => c = ' ' || ('\t' ≤ c && c ≤ '\r')
  let (negative, digits) := match cs' with
    | '-' :: rest => (true, rest)
    | '+' :: rest => (false, rest)
    | rest => (false, rest)
  let (base, found, rest) := match digits with
    | '0' :: x :: more =>
      if (x = 'x' || x = 'X') && (more.head?.map isHex).getD false then
        (16, (more.takeWhile isHex).map Char.toLower, more.dropWhile isHex)
      else (8, digits.takeWhile isOctal, digits.dropWhile isOctal)
    | _ => (10, digits.takeWhile Char.isDigit, digits.dropWhile Char.isDigit)
  if found.isEmpty then (none, cs)
  else
    let n : Int := Arithmetic.valueIn base found
    (some (if negative then -n else n), rest)

/-- the decimal number at the start of a text, and what follows it -/
def leadingDecimal (cs : List Char) : Option Float × List Char :=
  let cs' := cs.dropWhile fun c => c = ' ' || ('\t' ≤ c && c ≤ '\r')
  let (negative, digits) := match cs' with
    | '-' :: rest => (true, rest)
    | '+' :: rest => (false, rest)
    | rest => (false, rest)
  let whole := digits.takeWhile Char.isDigit
  let rest := digits.dropWhile Char.isDigit
  let (places, rest) := match rest with
    | '.' :: more => (more.takeWhile Char.isDigit, more.dropWhile Char.isDigit)
    | _ => ([], rest)
  if whole.isEmpty && places.isEmpty then (none, cs)
  else
    let (power, rest) : Int × List Char := match rest with
      | e :: more =>
        if e = 'e' || e = 'E' then
          let (minus, ds) := match more with
            | '-' :: ds => (true, ds)
            | '+' :: ds => (false, ds)
            | ds => (false, ds)
          if (ds.head?.map Char.isDigit).getD false then
            let n : Int := digitsValue (ds.takeWhile Char.isDigit)
            (if minus then -n else n, ds.dropWhile Char.isDigit)
          else (0, rest)
        else (0, rest)
      | [] => (0, rest)
    let exponent := power - places.length
    let x := Float.ofScientific (digitsValue (whole ++ places)) (exponent < 0) exponent.natAbs
    (some (if negative then -x else x), rest)

/-- a complaint about a number, in the words of who prints -/
def numberComplaint (manner : Manner) (arg : String) (nothing : Bool) : String :=
  match manner with
  | .plain => arg ++ (if nothing then ": expected numeric value" else ": not completely converted")
  | .extended => arg ++ ": invalid number"
  | .tool => "'" ++ arg ++ (if nothing then "': expected a numeric value" else "': value not completely converted")

/-- a number, and what is wrong with it -/
structure Reading (α : Type) where
  value : α
  complaint : Option String := none
  isFailure : Bool := true

/-- an argument as a whole number between two bounds -/
def readWhole (manner : Manner) (low high : Int) (arg : String) : Reading Int :=
  match arg.toList with
  | '\'' :: c :: _ | '"' :: c :: _ => { value := c.toNat }
  | cs =>
    let (found, rest) := leadingWhole cs
    let n := found.getD 0
    let complaint := if !rest.isEmpty then some (numberComplaint manner arg found.isNone) else none
    if n < low || high < n then
      let text := match manner with
        | .plain => arg ++ ": Numerical result out of range"
        | .extended => "warning: " ++ arg ++ ": Numerical result out of range"
        | .tool => "'" ++ arg ++ "': Numerical result out of range"
      { value := if n < low then low else high, complaint := some text, isFailure := manner ≠ .extended }
    else { value := n, complaint }

/-- an argument as a decimal number -/
def readDecimal (manner : Manner) (arg : String) : Reading Float :=
  match arg.toList with
  | '\'' :: c :: _ | '"' :: c :: _ => { value := Float.ofNat c.toNat }
  | cs =>
    let (found, rest) := leadingDecimal cs
    let complaint := if !rest.isEmpty then some (numberComplaint manner arg found.isNone) else none
    { value := found.getD 0.0, complaint }

/-! ## Directives -/

structure Directive where
  flags : List Char
  width : Option Nat := none
  precision : Option Nat := none
  letter : Char

namespace Directive

def has (d : Directive) (flag : Char) : Bool := d.flags.contains flag

/-- fills up to the width: with zeros after the sign if `zeros`, else with blanks -/
def pad (d : Directive) (zeros : Bool) (sign body : List Char) : List Char :=
  let missing := d.width.getD 0 - sign.length - body.length
  if d.has '-' then sign ++ body ++ List.replicate missing ' '
  else if zeros then sign ++ List.replicate missing '0' ++ body
  else List.replicate missing ' ' ++ sign ++ body

/-- what stands before a number that is not negative -/
def plusSign (d : Directive) : List Char := if d.has '+' then ['+'] else if d.has ' ' then [' '] else []

/-- writes a whole number with its digits in some base -/
def writeWhole (d : Directive) (negative : Bool) (digits : List Char) (mark : List Char) : List Char :=
  let digits := if digits = ['0'] && d.precision = some 0 then [] else digits
  let digits := List.replicate (d.precision.getD 0 - digits.length) '0' ++ digits
  d.pad (d.has '0' && d.precision.isNone) ((if negative then ['-'] else []) ++ mark) digits

/-- the digits of a number and the power of ten of the first one, after rounding to `count` digits -/
def roundTo (count : Nat) (b : Binary) : List Char × Int :=
  if b.mantissa = 0 then (List.replicate count '0', 0)
  else
    let size := Decimal.magnitude b
    let scaled := fun (shift : Int) =>
      roundDiv (b.ratio.1 * tenTo shift.toNat) (b.ratio.2 * tenTo (-shift).toNat)
    let digits := Nat.toDigits 10 (scaled (count - size))
    if digits.length > count then (Nat.toDigits 10 (scaled (count - size - 1)), size) else (digits, size - 1)

/-- a number with an exponent -/
def scientific (places : Nat) (b : Binary) : List Char :=
  let (digits, power) := roundTo (places + 1) b
  let exponent := toString power.natAbs
  digits.take 1 ++ (if places = 0 then [] else '.' :: digits.drop 1) ++ ['e', if power < 0 then '-' else '+'] ++
    (if exponent.length < 2 then '0' :: exponent.toList else exponent.toList)

/-- without zeros at the end of the places after the point -/
def trimPlaces (cs : List Char) : List Char :=
  if cs.contains '.' then
    let kept := (cs.reverse.dropWhile (· = '0')).reverse
    if kept.getLast? = some '.' then kept.dropLast else kept
  else cs

/-- a number in the shorter of both ways -/
def general (count : Nat) (keepZeros : Bool) (b : Binary) : List Char :=
  let count := if count = 0 then 1 else count
  let power := (roundTo count b).2
  let trim := if keepZeros then id else trimPlaces
  if -4 ≤ power && power < count then
    let places := ((count : Int) - 1 - power).toNat
    trim (positional ⟨roundDiv (b.ratio.1 * tenTo places) b.ratio.2, -(places : Int)⟩)
  else
    let text := scientific (count - 1) b
    let mantissa := text.takeWhile (· ≠ 'e')
    trim mantissa ++ text.dropWhile (· ≠ 'e')

/-- writes a decimal number -/
def writeDecimal (d : Directive) (x : Float) : List Char :=
  match Binary.ofFloat? x with
  | none => d.pad false [] (if isNaN x then "nan" else if isNegative x then "-inf" else "inf").toList
  | some b =>
    let places := d.precision.getD 6
    let body := match d.letter.toLower with
      | 'f' => positional ⟨roundDiv (b.ratio.1 * tenTo places) b.ratio.2, -(places : Int)⟩
      | 'e' => scientific places b
      | _ => general places (d.has '#') b
    let body := if d.letter.isUpper then body.map Char.toUpper else body
    d.pad (d.has '0') (if b.negative then ['-'] else d.plusSign) body

end Directive

/-! ## Formats -/

/-- the text so far, the arguments that are left, and what went wrong -/
structure Work where
  text : List Char := []
  args : List String
  complaints : List String := []
  status : Nat := 0
  /-- nothing more is printed -/
  stopped : Bool := false

namespace Work

def add (w : Work) (cs : List Char) : Work := { w with text := w.text ++ cs }

def next (w : Work) : String × Work := (w.args.headD "", { w with args := w.args.tail })

/-- stops with a complaint -/
def refuse (w : Work) (status : Nat) (message : String) : Work :=
  { w with complaints := w.complaints ++ [message], status, stopped := true }

def note {α : Type} (w : Work) (r : Reading α) : Work :=
  match r.complaint with
  | some message =>
    { w with complaints := w.complaints ++ [message], status := if r.isFailure then 1 else w.status }
  | none => w

end Work

/-- a number of a directive: digits, or the next argument -/
def readSize (manner : Manner) (cs : List Char) (w : Work) : Option Int × List Char × Work :=
  match cs with
  | '*' :: rest =>
    let (arg, w) := w.next
    let r := readWhole manner (-2147483648) 2147483647 arg
    (some r.value, rest, w.note r)
  | _ =>
    let digits := cs.takeWhile Char.isDigit
    (if digits.isEmpty then none else some (digitsValue digits), cs.dropWhile Char.isDigit, w)

/-- a text that a shell reads back as one word -/
def quoteWord (s : String) : List Char :=
  let isPlain := fun (c : Char) => c.isAlphanum || "_-./:=@%+,".contains c
  if s = "" then ['\'', '\'']
  else s.toList.flatMap fun c => if isPlain c then [c] else ['\\', c]

/-- carries out a directive; `source` is how it is written -/
def direct (manner : Manner) (d : Directive) (source : List Char) (w : Work) : Work :=
  let shown := String.ofList source
  match d.letter with
  | 's' =>
    let (arg, w) := w.next
    if manner = .tool && d.has '0' then w.refuse 1 (shown ++ ": invalid conversion specification")
    else
      let cs := match d.precision with
        | some n => arg.toList.take n
        | none => arg.toList
      w.add (d.pad false [] cs)
  | 'c' =>
    let (arg, w) := w.next
    w.add (d.pad false [] (arg.toList.take 1))
  | 'b' =>
    let (arg, w) := w.next
    let (cs, ended) := unescapeAll manner arg.length arg.toList
    { w.add (d.pad false [] cs) with stopped := ended }
  | 'd' | 'i' =>
    let (arg, w) := w.next
    let r := readWhole manner (-9223372036854775808) 9223372036854775807 arg
    let n := r.value
    (w.note r).add (d.writeWhole (n < 0) (Nat.toDigits 10 n.natAbs) (if n < 0 then [] else d.plusSign))
  | 'u' | 'o' | 'x' | 'X' =>
    let (arg, w) := w.next
    let r := readWhole manner (-9223372036854775808) 18446744073709551615 arg
    let n := (r.value % 18446744073709551616).toNat
    let (base, mark) := match d.letter with
      | 'o' => (8, if d.has '#' && n ≠ 0 then ['0'] else [])
      | 'x' => (16, if d.has '#' && n ≠ 0 then ['0', 'x'] else [])
      | 'X' => (16, if d.has '#' && n ≠ 0 then ['0', 'X'] else [])
      | _ => (10, [])
    let digits := Nat.toDigits base n
    (w.note r).add (d.writeWhole false (if d.letter = 'X' then digits.map Char.toUpper else digits) mark)
  | 'f' | 'F' | 'e' | 'E' | 'g' | 'G' =>
    let (arg, w) := w.next
    let r := readDecimal manner arg
    (w.note r).add (d.writeDecimal r.value)
  | c =>
    if c = 'q' && manner = .extended then
      let (arg, w) := w.next
      w.add (d.pad false [] (quoteWord arg))
    else
      match manner with
      | .plain => w.refuse 2 (shown ++ ": invalid directive")
      | .extended => w.refuse 1 (String.ofList [Char.ofNat 96, c] ++ "': invalid format character")
      | .tool => w.refuse 1 (shown ++ ": invalid conversion specification")

/-- one pass over a format -/
def pass (manner : Manner) (fuel : Nat) (form : List Char) (w : Work) : Work :=
  match fuel, form with
  | 0, _ | _, [] => w
  | fuel + 1, '\\' :: rest =>
    match unescape manner false rest with
    | none => { w with stopped := true }
    | some (text, left) => pass manner fuel left (w.add text)
  | fuel + 1, '%' :: '%' :: rest => pass manner fuel rest (w.add ['%'])
  | fuel + 1, '%' :: rest =>
    let isFlag := fun (c : Char) => "#-+ 0".contains c
    let flags := rest.takeWhile isFlag
    let (width, left, w) := readSize manner (rest.dropWhile isFlag) w
    let (precision, left, w) := match left with
      | '.' :: more =>
        let (n, left, w) := readSize manner more w
        (some (n.getD 0), left, w)
      | _ => (none, left, w)
    let left := if manner = .plain then left else left.dropWhile fun c => "hlLjzt".contains c
    match left with
    | [] =>
      match manner with
      | .plain => w.refuse 2 "missing format character"
      | .extended => w.refuse 1 (String.ofList (Char.ofNat 96 :: '%' :: rest) ++ "': missing format character")
      | .tool => w.refuse 1 (String.ofList ('%' :: rest) ++ ": invalid conversion specification")
    | letter :: after =>
      let isLeft := width.any (· < 0)
      let d : Directive :=
        { flags := if isLeft then '-' :: flags else flags
          width := width.map Int.natAbs
          precision := precision.bind fun n => if n < 0 then none else some n.toNat
          letter }
      let source := '%' :: rest.take (rest.length - after.length)
      let w := direct manner d source w
      if w.stopped then w else pass manner fuel after w
  | fuel + 1, c :: rest => pass manner fuel rest (w.add [c])

/-- passes over a format as long as arguments are left -/
def passes (manner : Manner) (fuel : Nat) (form : List Char) (w : Work) : Work :=
  match fuel with
  | 0 => w
  | fuel + 1 =>
    let count := w.args.length
    let w := pass manner (form.length + 1) form w
    if w.stopped || w.args.isEmpty || w.args.length = count then w else passes manner fuel form w

/-- prints arguments by a format -/
def print (manner : Manner) (form : String) (args : List String) : Work :=
  passes manner (args.length + 1) form.toList { args }

end Benchwork.Shell.Format
