/-
The fewest decimal digits that read back as a given floating-point number.

A finite number is the nearest one to every real of an interval around it. `shortest` looks on coarser and then finer
decimal grids, of one to seventeen digits, for a point inside that interval; on the first grid with a hit it takes the
point nearest to the number. Of two that are equally near it takes the upper one, or the one with an even last digit, as
it is told. All comparisons are between whole numbers.
-/
import Benchwork.Number.Binary

namespace Benchwork.Number

/-- the number `digits * 10 ^ exponent` -/
structure Decimal where
  digits : Nat
  exponent : Int
  deriving DecidableEq, Repr

/-- which of two decimals to take that are equally near -/
inductive Tie where
  | up
  | even
  deriving DecidableEq, Repr

namespace Decimal

/-- the same number without zeros at the end of its digits -/
def strip : Nat → Decimal → Decimal
  | 0, d => d
  | fuel + 1, d => if d.digits ≠ 0 ∧ d.digits % 10 = 0 then strip fuel ⟨d.digits / 10, d.exponent + 1⟩ else d

/-- the reals that read as `mantissa * 2 ^ exponent`, in quarters of its last place -/
structure Interval where
  low : Nat
  mid : Nat
  high : Nat
  closed : Bool

/-- half a last place up and down, but a quarter down where the next number below is twice as near; the ends belong to it
when the mantissa is even -/
def interval (b : Binary) : Interval :=
  let narrow := b.mantissa = twoTo 52 ∧ b.exponent ≠ -1074
  { low := 4 * b.mantissa - (if narrow then 1 else 2)
    mid := 4 * b.mantissa
    high := 4 * b.mantissa + 2
    closed := b.mantissa % 2 = 0 }

/-- the point of the grid of multiples of `10 ^ grid` that stands for `b`, if one lies in its interval -/
def onGrid? (tie : Tie) (b : Binary) (grid : Int) : Option Decimal :=
  let i := interval b
  let up := twoTo (b.exponent - 2).toNat * tenTo (-grid).toNat
  let down := twoTo (2 - b.exponent).toNat * tenTo grid.toNat
  let below := i.mid * up / down
  let fits (lo hi : Nat) : Bool := if i.closed then lo ≤ hi else lo < hi
  let lower := fits (i.low * up) (below * down)
  let upper := fits ((below + 1) * down) (i.high * up)
  let toLower := i.mid * up - below * down
  let toUpper := (below + 1) * down - i.mid * up
  let lowerWins := toLower < toUpper || (toLower = toUpper && tie = .even && below % 2 = 0)
  if lower && (!upper || lowerWins) then some ⟨below, grid⟩
  else if upper then some ⟨below + 1, grid⟩
  else none

/-- the least `k` from `guess` on with `b < 10 ^ k` -/
def magnitudeFrom (b : Binary) : Nat → Int → Int
  | 0, k => k
  | fuel + 1, k =>
    if b.ratio.1 * tenTo (-k).toNat < b.ratio.2 * tenTo k.toNat then k else magnitudeFrom b fuel (k + 1)

/-- the number of digits before the decimal point, negative for zeros right after it -/
def magnitude (b : Binary) : Int :=
  magnitudeFrom b 4 (((b.mantissa.log2 : Int) + b.exponent) * 30103 / 100000 - 1)

/-- the first grid with a hit, from `n` digits on -/
def search (tie : Tie) (b : Binary) (k : Int) : Nat → Nat → Decimal
  | 0, n => (onGrid? tie b (k - n)).getD ⟨0, 0⟩
  | fuel + 1, n => (onGrid? tie b (k - n)).getD (search tie b k fuel (n + 1))

/-- the shortest decimal that reads back as `b` -/
def shortest (tie : Tie) (b : Binary) : Decimal :=
  if b.mantissa = 0 then ⟨0, 0⟩ else strip 20 (search tie b (magnitude b) 17 1)

end Decimal

/-! ## Texts of numbers -/

/-- digits with the decimal point where `exponent` puts it and no exponent -/
def positional (d : Decimal) : List Char :=
  let digits := Nat.toDigits 10 d.digits
  if 0 ≤ d.exponent then digits ++ List.replicate d.exponent.toNat '0'
  else
    let places := (-d.exponent).toNat
    let padded := List.replicate (places + 1 - digits.length) '0' ++ digits
    padded.take (padded.length - places) ++ '.' :: padded.drop (padded.length - places)

/-- the text of a number from the text of its magnitude -/
def signed (x : Float) (magnitude : Binary → List Char) : String :=
  match Binary.ofFloat? x with
  | some b => String.ofList ((if b.negative then ['-'] else []) ++ magnitude b)
  | none => if isNaN x then "NaN" else if isNegative x then "-inf" else "inf"

/-- the fewest digits that read back, never with an exponent: `12.5`, `3`, `-0`, `0.0000001` -/
def plain (x : Float) : String := signed x fun b => positional (Decimal.shortest .up b)

end Benchwork.Number
