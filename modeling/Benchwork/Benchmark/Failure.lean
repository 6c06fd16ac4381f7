/-
Why results cannot be loaded or shown.

One constructor for each cause; `message` has the wording, `causes` the texts of the failures underneath.
-/
import Benchwork.Benchmark.Entry
import Benchwork.Files.Fault
import Benchwork.Files.Path
import Benchwork.Json.Reader

namespace Benchwork.Benchmark

open Benchwork.Text

inductive PlotError where
  | missingFile (path : Path)
  | file (path : Path) (cause : Fault)
  | json (path : Path) (cause : JsonError)
  | malformedEntry (path : Path) (index : Nat) (fault : EntryFault)
  | noData
  | unknownGroup (group : String)
  | invalidFigureSize (text : String)

namespace PlotError

/-- the text shown for a failure -/
def message : PlotError → String
  | .missingFile path => s!"Benchmark file {path.quoted} missing"
  | .file path cause => s!"Failed to read {path.quoted}: {cause.message}"
  | .json path cause => s!"Invalid JSON in {path.quoted}: {cause.message}"
  | .malformedEntry path index fault => s!"Malformed benchmark entry #{index} in {path.quoted}: {fault.message}"
  | .noData => "No benchmark results left after filtering"
  | .unknownGroup group => s!"Unknown benchmark group: {group}"
  | .invalidFigureSize text => s!"Invalid figure size {quote text}, expected WIDTH,HEIGHT"

/-- the failures underneath -/
def causes : PlotError → List String
  | .file _ cause => [cause.message]
  | .json _ cause => [cause.message]
  | _ => []

end PlotError

end Benchwork.Benchmark
