/-
The exact value of a floating-point number.

A finite number is a sign, a whole mantissa and a power of two; `ofFloat?` reads them off the bits, so that everything
which depends on the exact value (printing, rounding, truncation) is arithmetic on whole numbers.
-/

namespace Benchwork.Number

/-- the power `2 ^ n` -/
def twoTo (n : Nat) : Nat := Nat.pow 2 n

/-- the power `10 ^ n` -/
def tenTo (n : Nat) : Nat := Nat.pow 10 n

/-- the number `± mantissa * 2 ^ exponent` -/
structure Binary where
  negative : Bool
  mantissa : Nat
  exponent : Int
  deriving DecidableEq, Repr

def isNegative (x : Float) : Bool := x.toBits.toNat / twoTo 63 = 1

def exponentBits (x : Float) : Nat := x.toBits.toNat / twoTo 52 % twoTo 11

def fractionBits (x : Float) : Nat := x.toBits.toNat % twoTo 52

/-- neither infinite nor NaN -/
def isFinite (x : Float) : Bool := exponentBits x ≠ 2047

def isNaN (x : Float) : Bool := exponentBits x = 2047 ∧ fractionBits x ≠ 0

namespace Binary

/-- the exact value of a finite number -/
def ofFloat? (x : Float) : Option Binary :=
  if exponentBits x = 2047 then none
  else if exponentBits x = 0 then some ⟨isNegative x, fractionBits x, -1074⟩
  else some ⟨isNegative x, twoTo 52 + fractionBits x, (exponentBits x : Int) - 1075⟩

/-- the magnitude as a quotient of whole numbers -/
def ratio (b : Binary) : Nat × Nat := (b.mantissa * twoTo b.exponent.toNat, twoTo (-b.exponent).toNat)

/-- the magnitude rounded down to a whole number -/
def floor (b : Binary) : Nat := b.ratio.1 / b.ratio.2

/-- the magnitude rounded to the nearest whole number, a half going up -/
def nearest (b : Binary) : Nat := (2 * b.ratio.1 + b.ratio.2) / (2 * b.ratio.2)

end Binary

/-- the larger of the two; a NaN or a zero on the left gives way -/
def atLeast (bound x : Float) : Float := if x > bound then x else bound

/-- `x` kept within `lo` and `hi`; a NaN stays, but the bounds have to be in order -/
def clamp (lo hi : Float) (_ : lo ≤ hi) (x : Float) : Float :=
  let y := if x < lo then lo else x
  if y > hi then hi else y

/-- the number without its fraction -/
def truncate (x : Float) : Float :=
  if exponentBits x ≥ 1075 then x
  else if exponentBits x < 1023 then Float.ofBits (x.toBits &&& 0x8000000000000000)
  else
    let cut := twoTo (1075 - exponentBits x)
    Float.ofBits (UInt64.ofNat (x.toBits.toNat / cut * cut))

/-- the nearest whole number, a half going up, within `0` and `top`; `0` for a NaN -/
def toNatWithin (top : Nat) (x : Float) : Nat :=
  match Binary.ofFloat? x with
  | some b => if b.negative then 0 else min b.nearest top
  | none => if isNaN x || isNegative x then 0 else top

/-- the number cut to a whole one and kept within the 64-bit integers; `0` for a NaN -/
def toIntWithin64 (x : Float) : Int :=
  let low : Int := -(twoTo 63 : Int)
  let high : Int := (twoTo 63 : Int) - 1
  match Binary.ofFloat? x with
  | some b => max low (min (if b.negative then -(b.floor : Int) else b.floor) high)
  | none => if isNaN x then 0 else if isNegative x then low else high

end Benchwork.Number
