/-
Colors: three channels, each a number from zero to one.

Outside numbers are drawn in to that range when a color is shown, and a channel that is no number shows as zero.
-/
import Benchwork.Number.Binary

namespace Benchwork.Chart

open Benchwork.Number

@[ext]
structure Color where
  red : Float
  green : Float
  blue : Float

namespace Color

/-- a color from channels of 0 to 255 -/
def ofBytes (r g b : Nat) : Color := ⟨Float.ofNat r / 255.0, Float.ofNat g / 255.0, Float.ofNat b / 255.0⟩

/-- every channel less by `amount`, not below zero -/
def darken (c : Color) (amount : Float) : Color :=
  ⟨atLeast 0.0 (c.red - amount), atLeast 0.0 (c.green - amount), atLeast 0.0 (c.blue - amount)⟩

/-- a channel as a number from 0 to 255 -/
def byte (v : Float) : Nat := toNatWithin 255 (clamp 0.0 1.0 (by decide +kernel) v * 255.0)

def bytes (c : Color) : Nat × Nat × Nat := (byte c.red, byte c.green, byte c.blue)

/-- two lower-case hexadecimal digits -/
def hexByte (n : Nat) : List Char := [Nat.digitChar (n / 16), Nat.digitChar (n % 16)]

/-- `#rrggbb` -/
def hex (c : Color) : String :=
  let (r, g, b) := c.bytes
  String.ofList ('#' :: (hexByte r ++ hexByte g ++ hexByte b))

end Color

end Benchwork.Chart
