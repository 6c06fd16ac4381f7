/-
Result sets: scores by group and, inside a group, by benchmark name.

Groups and names are in byte order, and a set carries the proof of it. A record replaces an earlier one with the same
group and name. The names shown are those of the first group; the groups are shown in the display order, and a group
outside of it is a failure.
-/
import Benchwork.Benchmark.Failure
import Benchwork.Benchmark.Group
import Benchwork.Ordered

namespace Benchwork.Benchmark

/-- the scores of one group by name; none for a missing measurement -/
abbrev Scores := List (String × Option Float)

/-- the virtual machine that produced results -/
structure Vm where
  name : String
  version : String
  deriving DecidableEq, Repr

@[ext]
structure Results where
  groups : List (String × Scores) := []
  vm : Option Vm := none
  sorted : Ordered.Sorted groups := by decide +kernel
  sorted_scores : ∀ g ∈ groups, Ordered.Sorted g.2 := by decide +kernel

/-- the score of a benchmark, if it was measured -/
def Scores.score? (scores : Scores) (name : String) : Option Float := (scores.lookup name).join

/-- the virtual machine of an entry that tells both fields -/
def Entry.vm? (e : Entry) : Option Vm := do return ⟨← e.vmName, ← e.vmVersion⟩

namespace Results

/-- the set without scores -/
def empty : Results := {}

/-- the scores of a group, none if it is not there -/
def scoresOf (s : Results) (group : String) : Scores := (s.groups.lookup group).getD []

theorem sorted_scoresOf (s : Results) (group : String) : Ordered.Sorted (s.scoresOf group) := by
  unfold scoresOf
  cases hscores : s.groups.lookup group with
  | none => exact List.Pairwise.nil
  | some scores => exact s.sorted_scores _ (Ordered.mem_of_lookup hscores)

/-- with one more record -/
def insert (s : Results) (r : Record) : Results where
  groups := Ordered.put r.group (Ordered.put r.name r.score (s.scoresOf r.group)) s.groups
  vm := s.vm
  sorted := s.sorted.put _ _
  sorted_scores := fun g hg => by
    rcases Ordered.mem_put hg with rfl | hg
    · exact (s.sorted_scoresOf r.group).put _ _
    · exact s.sorted_scores g hg

def isEmpty (s : Results) : Bool := s.groups.isEmpty

/-- the score of a benchmark in a group -/
def score? (s : Results) (group name : String) : Option Float :=
  (s.groups.lookup group).bind (Scores.score? · name)

/-- the names that are shown: those of the first group -/
def names (s : Results) : List String :=
  match s.groups with
  | [] => []
  | (_, scores) :: _ => Ordered.keys scores

/-- a group with its place in the display order -/
def ranked (g : String × Scores) : Except PlotError (Nat × String × Scores) :=
  match Group.rank? g.1 with
  | some n => .ok (n, g)
  | none => .error (.unknownGroup g.1)

/-- the groups in display order -/
def ordered (s : Results) : Except PlotError (List (String × Scores)) :=
  (s.groups.mapM ranked).map fun gs => (gs.mergeSort fun a b => a.1 ≤ b.1).map (·.2)

end Results

end Benchwork.Benchmark
