/-
Loading result files.

Files are read in order. Of one file, first all entries are decoded and then all are validated, so the first entry that
does not decode is reported before any that is invalid. The filter is applied to valid records only. What is known about
the virtual machine comes from the first entry of the last file.
-/
import Benchwork.Benchmark.Filter
import Benchwork.Benchmark.Results
import Benchwork.Files.Store

namespace Benchwork.Benchmark

/-- applies `f` to the items with their indices, counted from `index`; the first failure decides -/
def eachFrom {α β : Type} (path : Path) (f : α → Except EntryFault β) (index : Nat) :
    List α → Except PlotError (List β)
  | [] => .ok []
  | x :: rest =>
    match f x with
    | .error fault => .error (.malformedEntry path index fault)
    | .ok y => (eachFrom path f (index + 1) rest).map (y :: ·)

namespace Load

/-- the entries of a file -/
def entries (fs : FileStore) (path : Path) : Except PlotError (List Entry) :=
  if !fs.pathExists path then .error (.missingFile path)
  else
    match fs.readText path with
    | .error cause => .error (.file path cause)
    | .ok text =>
      match Json.readList text with
      | .error cause => .error (.json path cause)
      | .ok values => eachFrom path Entry.decode 0 values

/-- the records of a file with today's group names, and its virtual machine -/
def records (fs : FileStore) (zero : ZeroPolicy) (path : Path) : Except PlotError (List Record × Option Vm) := do
  let es ← entries fs path
  let rs ← eachFrom path (Entry.validate zero) 0 es
  return (rs.map fun r => { r with group := Group.normalize r.group }, es.head?.bind Entry.vm?)

/-- adds a file's records to a result set -/
def addFile (fs : FileStore) (filter : Filter) (zero : ZeroPolicy) (s : Results) (path : Path) :
    Except PlotError Results := do
  let (rs, vm) ← records fs zero path
  return (rs.filter fun r => filter.keeps r.group r.name).foldl Results.insert { s with vm }

end Load

/-- the results of all files that pass the filter -/
def Results.load (fs : FileStore) (files : List Path) (filter : Filter) (zero : ZeroPolicy) :
    Except PlotError Results := do
  let s ← files.foldlM (Load.addFile fs filter zero) .empty
  if s.isEmpty then .error .noData else .ok s

end Benchwork.Benchmark
