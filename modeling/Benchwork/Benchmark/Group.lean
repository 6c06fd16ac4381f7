/-
Benchmark groups.

A benchmark belongs to a group, which is a test class: one library variant, plain or optimized. `displayOrder` lists the
groups that can be shown, in the order in which they are shown. Old result files use older words for two of the variants;
`normalize` brings them up to date.
-/
import Benchwork.Text.Pattern

namespace Benchwork.Benchmark.Group

open Benchwork.Text

def displayOrder : List String :=
  ["TestBaseline", "TestStream", "TestStreamOpt", "TestPush", "TestPushOpt", "TestPull", "TestPullOpt"]

/-- today's name of a group -/
def normalize (group : String) : String := replace "Inline" "Opt" (replace "Java8" "Stream" group)

/-- the place of a group in the display order -/
def rank? (group : String) : Option Nat := displayOrder.findIdx? (· = group)

/-- an optimized variant -/
def isOptimized (group : String) : Bool := contains "Opt" group

/-- the group that an optimized variant belongs to; any other group stands for itself -/
def base (group : String) : String := (dropEnd? "Opt" group).getD group

/-- the name shown for a group -/
def label (group : String) : String := replace "Opt" " optimized" ((dropStart? "Test" group).getD group)

end Benchwork.Benchmark.Group
