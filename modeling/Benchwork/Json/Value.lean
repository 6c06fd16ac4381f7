/-
JSON values and their compact text.

A number is a whole number if it was written as one and is not too large, and a floating-point number otherwise. The
fields of an object are in byte order of their names, the last one given for a name. The compact text has no blanks;
floating-point numbers in it have the fewest digits that read back, with a decimal point for magnitudes from `1e-5` up
to `1e16` and an exponent otherwise.
-/
import Benchwork.Number.Shortest
import Benchwork.Text.Quoted

namespace Benchwork

open Benchwork.Text Benchwork.Number

/-- a whole number from zero on, the negative of a positive whole number, or a floating-point number -/
inductive JsonNumber where
  | natural (n : Nat)
  | negative (n : Nat)
  | float (x : Float)
  deriving DecidableEq

inductive Json where
  | null
  | bool (b : Bool)
  | number (n : JsonNumber)
  | string (s : String)
  | array (items : List Json)
  | object (fields : List (String × Json))

namespace Json

mutual

def decEq : (x y : Json) → Decidable (x = y)
  | .null, .null => isTrue rfl
  | .bool a, .bool b => decidable_of_iff (a = b) (by simp)
  | .number a, .number b => decidable_of_iff (a = b) (by simp)
  | .string a, .string b => decidable_of_iff (a = b) (by simp)
  | .array a, .array b =>
    have := decEqItems a b
    decidable_of_iff (a = b) (by simp)
  | .object a, .object b =>
    have := decEqFields a b
    decidable_of_iff (a = b) (by simp)
  | .null, .bool _ | .null, .number _ | .null, .string _ | .null, .array _ | .null, .object _ => isFalse nofun
  | .bool _, .null | .bool _, .number _ | .bool _, .string _ | .bool _, .array _ | .bool _, .object _ => isFalse nofun
  | .number _, .null | .number _, .bool _ | .number _, .string _ | .number _, .array _ | .number _, .object _ =>
    isFalse nofun
  | .string _, .null | .string _, .bool _ | .string _, .number _ | .string _, .array _ | .string _, .object _ =>
    isFalse nofun
  | .array _, .null | .array _, .bool _ | .array _, .number _ | .array _, .string _ | .array _, .object _ => isFalse nofun
  | .object _, .null | .object _, .bool _ | .object _, .number _ | .object _, .string _ | .object _, .array _ =>
    isFalse nofun

def decEqItems : (xs ys : List Json) → Decidable (xs = ys)
  | [], [] => isTrue rfl
  | x :: xs, y :: ys =>
    have := decEq x y
    have := decEqItems xs ys
    decidable_of_iff (x = y ∧ xs = ys) (by simp)
  | [], _ :: _ | _ :: _, [] => isFalse nofun

def decEqFields : (xs ys : List (String × Json)) → Decidable (xs = ys)
  | [], [] => isTrue rfl
  | (n, x) :: xs, (m, y) :: ys =>
    have := decEq x y
    have := decEqFields xs ys
    decidable_of_iff ((n = m ∧ x = y) ∧ xs = ys) (by simp)
  | [], _ :: _ | _ :: _, [] => isFalse nofun

end

instance : DecidableEq Json := decEq

end Json

namespace JsonNumber

/-- the nearest floating-point number -/
def toFloat : JsonNumber → Float
  | .natural n => Float.ofNat n
  | .negative n => -Float.ofNat n
  | .float x => x

/-- one digit, and the others after a point if there are any -/
def scientificDigits : List Char → List Char
  | [] => []
  | [d] => [d]
  | d :: rest => d :: '.' :: rest

/-- the magnitude of a floating-point number: plain with a decimal place, or with an exponent -/
def magnitude (b : Binary) : List Char :=
  let d := Decimal.shortest .even b
  let digits := Nat.toDigits 10 d.digits
  let power : Int := d.exponent + digits.length - 1
  if b.mantissa = 0 then ['0', '.', '0']
  else if -5 ≤ power ∧ power < 16 then
    let body := positional d
    if 0 ≤ d.exponent then body ++ ['.', '0'] else body
  else
    scientificDigits digits ++ 'e' :: (if power < 0 then '-' else '+') :: Nat.toDigits 10 power.natAbs

def render : JsonNumber → String
  | .natural n => toString n
  | .negative n => "-" ++ toString n
  | .float x => signed x magnitude

end JsonNumber

namespace Json

/-- one character inside a JSON string -/
def escapeChar (c : Char) : List Char :=
  if c = '"' ∨ c = '\\' then ['\\', c]
  else if c.toNat = 8 then ['\\', 'b']
  else if c = '\t' then ['\\', 't']
  else if c = '\n' then ['\\', 'n']
  else if c.toNat = 12 then ['\\', 'f']
  else if c = '\r' then ['\\', 'r']
  else if c.toNat < 0x20 then ['\\', 'u', '0', '0', Nat.digitChar (c.toNat / 16), Nat.digitChar (c.toNat % 16)]
  else [c]

def renderString (s : String) : String := String.ofList ('"' :: s.toList.flatMap escapeChar ++ ['"'])

mutual

/-- the compact text of a value -/
def render : Json → String
  | .null => "null"
  | .bool b => if b then "true" else "false"
  | .number n => n.render
  | .string s => renderString s
  | .array items => "[" ++ ",".intercalate (renderItems items) ++ "]"
  | .object fields => "\x7b" ++ ",".intercalate (renderFields fields) ++ "\x7d"

def renderItems : List Json → List String
  | [] => []
  | x :: rest => render x :: renderItems rest

def renderFields : List (String × Json) → List String
  | [] => []
  | field :: rest => renderField field :: renderFields rest

def renderField : String × Json → String
  | (name, x) => renderString name ++ ":" ++ render x

end

/-- the kind of a value as messages call it -/
def describe : Json → String
  | .null => "null"
  | .bool b => if b then "boolean `true`" else "boolean `false`"
  | .number (.float x) => "floating point `" ++ (JsonNumber.float x).render ++ "`"
  | .number n => "integer `" ++ n.render ++ "`"
  | .string s => "string " ++ quote s
  | .array _ => "sequence"
  | .object _ => "map"

end Json

end Benchwork
