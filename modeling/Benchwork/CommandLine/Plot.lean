/-
The command that shows results.

`PlotCommand` is what its arguments say; `PlotConfig` is what follows from them: where the picture goes, which results are
wanted, and the limit of the value axis, where zero means none.
-/
import Benchwork.Benchmark.Failure
import Benchwork.Benchmark.Filter
import Benchwork.CommandLine.Usage
import Benchwork.Number.Whole
import Benchwork.Page.Frame
import Benchwork.Text.Blank

namespace Benchwork.CommandLine

open Benchwork.Benchmark Benchwork.Page Benchwork.Text

/-- width and height with a comma between them, blanks around each apart; neither may be zero -/
def figureSizeOf (cs : List Char) : Option FigureSize := do
  let (w, h) ← cutAt ',' cs
  let width ← Number.whole? (trimChars w)
  let height ← Number.whole? (trimChars h)
  if width = 0 ∨ height = 0 ∨ Number.top32 < width ∨ Number.top32 < height then none
  else some ⟨width, height⟩

/-- reads a figure size -/
def parseFigureSize (s : String) : Except PlotError FigureSize :=
  match figureSizeOf s.toList with
  | some size => .ok size
  | none => .error (.invalidFigureSize s)

/-- what the arguments of the command say -/
structure PlotCommand where
  files : List String := ["out.json"]
  exclude : List String := []
  names : List String := []
  groups : List String := []
  limit : Option Nat := none
  figureSize : FigureSize := ⟨16, 10⟩
  table : Bool := false
  page : Bool := false
  keepZero : Bool := false
  deriving DecidableEq, Repr

inductive PlotOption where
  | files
  | exclude
  | names
  | groups
  | limit
  | figureSize
  | table
  | page
  | keepZero
  | help
  deriving DecidableEq, Repr

namespace PlotCommand

/-- the arguments read so far; files are absent until one is named -/
structure Draft where
  command : PlotCommand := {}
  files : List String := []

/-- a limit: a whole number of at most 32 bits -/
def limitOf (s : String) : Option Nat := do
  let n ← Number.signedWhole? s.toList
  if 0 ≤ n ∧ n ≤ Number.top32 then some n.toNat else none

/-- what the values of an option do -/
def take (key : PlotOption) (values : List String) (d : Draft) : Except UsageError Draft :=
  let c := d.command
  match key with
  | .files => if values.contains "" then .error .missingValue else .ok { d with files := d.files ++ values }
  | .exclude => .ok { d with command := { c with exclude := c.exclude ++ values } }
  | .names => .ok { d with command := { c with names := c.names ++ values } }
  | .groups => .ok { d with command := { c with groups := c.groups ++ values } }
  | .limit =>
    match limitOf ("".intercalate values) with
    | some n => .ok { d with command := { c with limit := some n } }
    | none => .error .badValue
  | .figureSize =>
    match figureSizeOf ("".intercalate values).toList with
    | some size => .ok { d with command := { c with figureSize := size } }
    | none => .error .badValue
  | .table => .ok { d with command := { c with table := true } }
  | .page => .ok { d with command := { c with page := true } }
  | .keepZero => .ok { d with command := { c with keepZero := true } }
  | .help => .error .help

def grammar : Grammar PlotOption Draft where
  flags :=
    [{ key := .exclude, short := some 'x', long := some "exclude", arity := .many, repeats := true },
     { key := .names, short := some 'i', long := some "include", arity := .many, repeats := true },
     { key := .groups, short := some 'g', long := some "includeg", arity := .many, repeats := true },
     { key := .limit, short := some 'y', long := some "ylim", arity := .one },
     { key := .figureSize, long := some "figsize", arity := .one },
     { key := .table, long := some "table" },
     { key := .page, long := some "pdf" },
     { key := .keepZero, long := some "keep-zero" },
     { key := .help, short := some 'h', long := some "help" }]
  other := some { key := .files, arity := .many, repeats := true }
  take := take

/-- reads the arguments of the command -/
def read (args : List String) : Except UsageError PlotCommand :=
  (grammar.read {} args).map fun d => if d.files.isEmpty then d.command else { d.command with files := d.files }

end PlotCommand

/-! ## Configuration -/

/-- where the picture goes -/
inductive PlotOutput where
  | table
  | screen
  | file (path : Path)
  deriving DecidableEq, Repr

structure PlotConfig where
  files : List Path
  filter : Filter
  zero : ZeroPolicy
  limit : Option Float
  figureSize : FigureSize
  output : PlotOutput

namespace PlotConfig

/-- the directory for vector pages -/
def pageDirectory : Path := Path.ofString "pdfs"

/-- the page of a list of files: named after the first -/
def pagePath (files : List Path) : Path :=
  let stem := ((files.head?.bind Path.fileStem?).map Utf8.lossy).getD "out"
  pageDirectory.join (Path.ofString (stem ++ ".svg"))

/-- what follows from the arguments; a table goes before a page -/
def ofCommand (c : PlotCommand) : PlotConfig :=
  let files := c.files.map Path.ofString
  { files
    filter := { groups := c.groups, exclude := c.exclude, names := c.names }
    zero := if c.keepZero then .keep else .missing
    limit := (c.limit.filter (0 < ·)).map Float.ofNat
    figureSize := c.figureSize
    output := if c.table then .table else if c.page then .file (pagePath files) else .screen }

/-- the title of the picture: the first file -/
def title (c : PlotConfig) : String := (c.files.head?.map Path.display).getD ""

end PlotConfig

end Benchwork.CommandLine
