/-
The colors of charts.

Series take the colors of a palette in turn. An optimized variant has its base's color, darkened; a bar without a
measurement is grey.
-/
import Benchwork.Chart.Color

namespace Benchwork.Chart

/-- a color of the terminal: one of its own or a mixture -/
inductive Ink where
  | reset
  | white
  | cyan
  | yellow
  | rgb (r g b : Nat)
  deriving DecidableEq, Repr

def Color.ink (c : Color) : Ink := .rgb c.bytes.1 c.bytes.2.1 c.bytes.2.2

structure Theme where
  foreground : Ink
  border : Ink
  title : Ink
  warning : Ink
  palette : List Color
  palette_ne_nil : palette ≠ []

namespace Theme

/-- the usual ten colors for categories -/
def standard : Theme where
  foreground := .white
  border := .rgb 100 100 120
  title := .cyan
  warning := .yellow
  palette :=
    [.ofBytes 0x1f 0x77 0xb4, .ofBytes 0xff 0x7f 0x0e, .ofBytes 0x2c 0xa0 0x2c, .ofBytes 0xd6 0x27 0x28,
     .ofBytes 0x94 0x67 0xbd, .ofBytes 0x8c 0x56 0x4b, .ofBytes 0xe3 0x77 0xc2, .ofBytes 0x7f 0x7f 0x7f,
     .ofBytes 0xbc 0xbd 0x22, .ofBytes 0x17 0xbe 0xcf]
  palette_ne_nil := List.cons_ne_nil _ _

theorem mod_palette_lt (t : Theme) (n : Nat) : n % t.palette.length < t.palette.length :=
  Nat.mod_lt n (List.length_pos_iff.2 t.palette_ne_nil)

/-- the color of the series with this number, the palette being used over again -/
def barColor (t : Theme) (n : Nat) : Color := t.palette.get ⟨n % t.palette.length, t.mod_palette_lt n⟩

end Theme

/-- how much darker an optimized variant is than its base -/
def optimizedShade : Float := 0.2

/-- the color of bars without a measurement -/
def missingColor : Color := ⟨0.5, 0.5, 0.5⟩

end Benchwork.Chart
