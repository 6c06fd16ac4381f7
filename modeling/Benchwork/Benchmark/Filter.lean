/-
Which benchmarks are wanted.

A benchmark is kept when its group is among the groups asked for, its name is not excluded, and its name is among the
names asked for. Asking for no group, or for no name, asks for all of them.
-/

namespace Benchwork.Benchmark

structure Filter where
  groups : List String := []
  exclude : List String := []
  names : List String := []
  deriving DecidableEq, Repr

/-- the benchmark is wanted -/
def Filter.keeps (f : Filter) (group name : String) : Bool :=
  (f.groups.isEmpty || f.groups.contains group) && !f.exclude.contains name &&
    (f.names.isEmpty || f.names.contains name)

end Benchwork.Benchmark
