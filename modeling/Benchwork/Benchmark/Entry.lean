/-
Entries of a result file.

An entry is an object with an identifier, the primary metric and two fields on the virtual machine, each of which may be
missing or null; or an array of these four in this order. `Entry.decode` reads it from a JSON value. A validated entry is
a record: the last two parts of the dotted identifier are its group and its name, and its score is a number, or missing
if it is null or, unless zeros are kept, zero.
-/
import Benchwork.Json.Value
import Benchwork.Ordered

namespace Benchwork.Benchmark

open Benchwork.Text

/-- what is wrong with an entry -/
inductive EntryFault where
  | wrongType (found : Json) (expected : String)
  | tooShort (length : Nat)
  | tooLong (length : Nat)
  | noIdentifier
  | noGroup (identifier : String)
  | noMetric
  | noScore
  | badScore (score : Json)

def EntryFault.message : EntryFault → String
  | .wrongType found expected => s!"invalid type: {found.describe}, expected {expected}"
  | .tooShort length => s!"invalid length {length}, expected struct RawBenchmark with 4 elements"
  | .tooLong length => s!"invalid length {length}, expected fewer elements in array"
  | .noIdentifier => "missing \"benchmark\" identifier"
  | .noGroup identifier => s!"benchmark identifier {quote identifier} has no group component"
  | .noMetric => "missing \"primaryMetric\" object"
  | .noScore => "missing \"primaryMetric.score\""
  | .badScore score => s!"score {score.render} is not a number"

/-- what a zero score means -/
inductive ZeroPolicy where
  | missing
  | keep
  deriving DecidableEq, Repr

/-- an entry before it is validated -/
structure Entry where
  identifier : Option String := none
  metric : Option (List (String × Json)) := none
  vmName : Option String := none
  vmVersion : Option String := none

/-- a measurement; without a score it is missing -/
structure Record where
  group : String
  name : String
  score : Option Float

namespace Entry

/-! ## Decoding -/

/-- a text, or nothing for null -/
def text? : Json → Except EntryFault (Option String)
  | .null => .ok none
  | .string s => .ok (some s)
  | x => .error (.wrongType x "a string")

/-- the fields of an object, or nothing for null -/
def fields? : Json → Except EntryFault (Option (List (String × Json)))
  | .null => .ok none
  | .object fields => .ok (some fields)
  | x => .error (.wrongType x "a map")

/-- takes one field of an object into account -/
def addField (e : Entry) (name : String) (x : Json) : Except EntryFault Entry := do
  match name with
  | "benchmark" => return { e with identifier := ← text? x }
  | "primaryMetric" => return { e with metric := ← fields? x }
  | "vmName" => return { e with vmName := ← text? x }
  | "vmVersion" => return { e with vmVersion := ← text? x }
  | _ => return e

/-- the four parts of an entry written as an array -/
def ofItems : List Json → Except EntryFault Entry
  | [] => .error (.tooShort 0)
  | [a] => do
    let _ ← text? a
    .error (.tooShort 1)
  | [a, b] => do
    let _ ← text? a
    let _ ← fields? b
    .error (.tooShort 2)
  | [a, b, c] => do
    let _ ← text? a
    let _ ← fields? b
    let _ ← text? c
    .error (.tooShort 3)
  | a :: b :: c :: d :: rest => do
    let e : Entry := ⟨← text? a, ← fields? b, ← text? c, ← text? d⟩
    if rest.isEmpty then return e else .error (.tooLong (rest.length + 4))

/-- an entry from a JSON value -/
def decode : Json → Except EntryFault Entry
  | .object fields => fields.foldlM (fun e (name, x) => e.addField name x) {}
  | .array items => ofItems items
  | x => .error (.wrongType x "struct RawBenchmark")

/-! ## Validation -/

/-- the last two parts of a dotted identifier, neither of them empty -/
def split? (identifier : String) : Option (String × String) :=
  match (identifier.toList.splitOn '.').reverse with
  | name :: group :: _ => if name ≠ [] ∧ group ≠ [] then some (String.ofList group, String.ofList name) else none
  | _ => none

/-- the score of a measurement -/
def readScore (zero : ZeroPolicy) : Json → Except EntryFault (Option Float)
  | .null => .ok none
  | .number n => .ok (if zero = .missing ∧ n.toFloat == 0.0 then none else some n.toFloat)
  | x => .error (.badScore x)

/-- the record of an entry; of several faults the first in the order identifier, metric, score is reported -/
def validate (zero : ZeroPolicy) (e : Entry) : Except EntryFault Record :=
  match e.identifier with
  | none => .error .noIdentifier
  | some identifier =>
    match split? identifier with
    | none => .error (.noGroup identifier)
    | some (group, name) =>
      match e.metric with
      | none => .error .noMetric
      | some metric =>
        match metric.lookup "score" with
        | none => .error .noScore
        | some x => (readScore zero x).map fun score => ⟨group, name, score⟩

end Entry

end Benchwork.Benchmark
