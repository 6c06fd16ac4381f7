/-
The screen of a terminal: a grid of cells, each with a symbol and a style.

Everything is drawn by changing cells one after the other, so what is drawn later covers what was there. A change outside
of the screen is lost. Drawing a symbol leaves the style of its cell alone unless it says otherwise. A symbol is what
takes one cell: a character, or a carriage return with the newline after it.
-/
import Benchwork.Chart.Theme
import Benchwork.Text.Blank

namespace Benchwork.Terminal

open Benchwork.Chart

structure Style where
  ink : Ink := .reset
  bold : Bool := false
  dim : Bool := false
  deriving DecidableEq, Repr

structure Cell where
  symbol : String := " "
  style : Style := {}
  deriving DecidableEq, Repr

/-- rows of cells, one after the other -/
structure Screen where
  width : Nat
  height : Nat
  cells : Array Cell

/-- a part of the screen -/
structure Area where
  x : Nat
  y : Nat
  width : Nat
  height : Nat
  deriving DecidableEq, Repr

namespace Area

def isEmpty (a : Area) : Bool := a.width = 0 || a.height = 0

/-- the area inside a border of one cell -/
def inner (a : Area) : Area := ⟨min (a.x + 1) (a.x + a.width), min (a.y + 1) (a.y + a.height), a.width - 2, a.height - 2⟩

end Area

namespace Screen

/-- a screen with nothing on it -/
def blank (width height : Nat) : Screen := ⟨width, height, Array.replicate (width * height) {}⟩

def area (s : Screen) : Area := ⟨0, 0, s.width, s.height⟩

/-- changes one cell -/
def change (s : Screen) (x y : Nat) (f : Cell → Cell) : Screen :=
  if x < s.width ∧ y < s.height then { s with cells := s.cells.modify (y * s.width + x) f } else s

/-- puts a symbol in a cell -/
def put (s : Screen) (x y : Nat) (symbol : String) : Screen := s.change x y fun c => { c with symbol }

/-- puts a symbol of some color in a cell -/
def putInk (s : Screen) (x y : Nat) (symbol : String) (ink : Ink) : Screen :=
  s.change x y fun c => { symbol, style := { c.style with ink } }

/-- changes the style of every cell of an area -/
def restyle (s : Screen) (a : Area) (f : Style → Style) : Screen :=
  (List.range a.height).foldl (fun s dy => (List.range a.width).foldl (fun s dx =>
    s.change (a.x + dx) (a.y + dy) fun c => { c with style := f c.style }) s) s

/-- writes symbols from a place on to the right -/
def write (s : Screen) (x y : Nat) (text : List String) : Screen :=
  text.zipIdx.foldl (fun s (c, i) => s.put (x + i) y c) s

/-- the cells of a row -/
def row (s : Screen) (y : Nat) : List Cell := (s.cells.extract (y * s.width) ((y + 1) * s.width)).toList

def rows (s : Screen) : List (List Cell) := (List.range s.height).map s.row

end Screen

/-! ## Symbols of a text -/

/-- the symbols of a text; a newline that stands alone is not shown -/
def symbolsOf : List Char → List String
  | [] => []
  | '\r' :: '\n' :: rest => "\r\n" :: symbolsOf rest
  | c :: rest => if c = '\n' then symbolsOf rest else String.singleton c :: symbolsOf rest

/-- the symbols of all lines of a text, one line after the other -/
def lineSymbols (s : String) : List String := (Text.lines s).flatMap fun line => symbolsOf line.toList

/-! ## Boxes -/

/-- draws the four sides of a box and then its corners, so that in a narrow box corners cover each other -/
def drawBorder (s : Screen) (a : Area) (ink : Ink) : Screen :=
  let right := a.x + a.width - 1
  let bottom := a.y + a.height - 1
  let column (x : Nat) (s : Screen) : Screen :=
    (List.range a.height).foldl (fun s dy => s.putInk x (a.y + dy) "│" ink) s
  let line (y : Nat) (s : Screen) : Screen :=
    (List.range a.width).foldl (fun s dx => s.putInk (a.x + dx) y "─" ink) s
  let sides := line bottom (column right (line a.y (column a.x s)))
  (((sides.putInk right bottom "┘" ink).putInk right a.y "┐" ink).putInk a.x bottom "└" ink).putInk a.x a.y "┌" ink

/-- draws a box with a title in its upper side -/
def drawBox (s : Screen) (a : Area) (border title : Ink) (text : String) : Screen :=
  if a.isEmpty then s
  else
    let shown := (lineSymbols text).take (a.width - 2)
    let s := drawBorder s a border
    let s := s.restyle ⟨a.x + 1, a.y, shown.length, 1⟩ fun st => { st with ink := title, bold := true }
    s.write (a.x + 1) a.y shown

end Benchwork.Terminal
