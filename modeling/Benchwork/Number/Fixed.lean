/-
Numbers with a fixed count of decimal places.

The exact value is rounded to the wanted place, a half going to the even neighbour, so `2.5` without places is `2`, and a
negative number keeps its sign even when only zeros are left.
-/
import Benchwork.Number.Shortest

namespace Benchwork.Number

/-- the quotient rounded to the nearest whole number, a half going to the even one -/
def roundDiv (num den : Nat) : Nat :=
  let q := num / den
  let r := num % den
  if 2 * r > den ∨ (2 * r = den ∧ q % 2 = 1) then q + 1 else q

/-- the text of a number with `places` digits after the point -/
def fixed (places : Nat) (x : Float) : String :=
  signed x fun b =>
    let units := roundDiv (b.ratio.1 * tenTo places) b.ratio.2
    positional ⟨units, -(places : Int)⟩

end Benchwork.Number
