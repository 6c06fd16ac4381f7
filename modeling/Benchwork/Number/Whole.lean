/-
Whole numbers in text.

A plain whole number is a run of decimal digits with a plus sign before it or not; a signed one may have a minus sign
instead. Leading zeros are allowed, blanks are not.
-/

namespace Benchwork.Number

/-- an ASCII digit -/
def isDigit (c : Char) : Bool := '0' ≤ c ∧ c ≤ '9'

/-- the value of a run of digits -/
def digitsValue (ds : List Char) : Nat := ds.foldl (fun n d => n * 10 + (d.toNat - 48)) 0

/-- the value of one or more digits and nothing else -/
def digits? (cs : List Char) : Option Nat := if cs ≠ [] ∧ cs.all isDigit then some (digitsValue cs) else none

/-- digits after an optional plus sign -/
def whole? : List Char → Option Nat
  | '+' :: rest => digits? rest
  | cs => digits? cs

/-- digits after an optional sign -/
def signedWhole? : List Char → Option Int
  | '-' :: rest => (digits? rest).map fun n => -(n : Int)
  | cs => (whole? cs).map fun n => (n : Int)

/-- the largest number of 32 bits -/
def top32 : Nat := 4294967295

end Benchwork.Number
