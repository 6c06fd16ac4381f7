/-
The value of a decimal number in a JSON text.

Digits are gathered into a significand for as long as it fits 64 bits. Whole digits after that only raise the exponent
and decimal digits after that are passed over. The value is then the significand, as a floating-point number, multiplied
or divided once by a power of ten, so it is not always the nearest one to what was written.
-/
import Benchwork.Json.Value

namespace Benchwork.JsonNumber

/-- the largest significand, and the largest whole number -/
def top : Nat := Number.twoTo 64 - 1

/-- the largest power of ten that is a finite number -/
def topPower : Nat := 308

def powerOfTen (n : Nat) : Float := Float.ofScientific 1 false n

/-- `f * 10 ^ exponent`; none if that is too large -/
def scale? (f : Float) (exponent : Int) : Option Float :=
  if 0 ≤ exponent then
    if exponent ≤ topPower then
      let g := f * powerOfTen exponent.toNat
      if Number.isFinite g then some g else none
    else if f == 0.0 then some f else none
  else if -(topPower : Int) ≤ exponent then some (f / powerOfTen (-exponent).toNat)
  else if f == 0.0 then some f
  else scale? (f / powerOfTen topPower) (exponent + topPower)
termination_by (-exponent).toNat
decreasing_by simp only [topPower] at *; omega

/-- the number with this sign, significand and exponent; none if it is too large -/
def ofParts? (negative : Bool) (significand : Nat) (exponent : Int) : Option JsonNumber :=
  (scale? (Float.ofNat significand) exponent).map fun f => .float (if negative then -f else f)

/-- a whole number with this sign: a floating-point number for a negative zero and below the 64-bit integers -/
def ofWhole (negative : Bool) (n : Nat) : JsonNumber :=
  if !negative then .natural n
  else if n = 0 ∨ n > Number.twoTo 63 then .float (-Float.ofNat n)
  else .negative n

end Benchwork.JsonNumber
