/-
File trees.

A node is a file with its bytes, a symbolic link with the path it points to, or a directory with its entries. Entries
are kept in byte order of their names. A location is the list of names that leads to a node from the
top, with no link on the way: `get?` looks a location up and `set` puts a node there.
-/
import Benchwork.Files.Path
import Benchwork.Ordered

namespace Benchwork

/-- names from the top down, none of them a link -/
abbrev Location := List Name

inductive Node where
  | file (content : List UInt8) (executable : Bool)
  | link (target : Path)
  | dir (entries : List (Name × Node))
  deriving Inhabited

namespace Node

/-- a directory without entries -/
def empty : Node := .dir []

def isDir : Node → Bool
  | .dir _ => true
  | _ => false

/-- the entry `n` of a directory -/
def child? : Node → Name → Option Node
  | .dir entries, n => entries.lookup n
  | _, _ => none

/-- the node at a location -/
def get? : Node → Location → Option Node
  | x, [] => some x
  | x, n :: loc => (x.child? n).bind (get? · loc)

/-- puts `y` at a location whose directory exists; elsewhere nothing changes -/
def set : Node → Location → Node → Node
  | _, [], y => y
  | .dir entries, [n], y => .dir (Ordered.put n y entries)
  | .dir entries, n :: loc, y =>
    match entries.lookup n with
    | some x => .dir (Ordered.put n (set x loc y) entries)
    | none => .dir entries
  | x, _ :: _, _ => x

/-- takes away what is at a location -/
def remove : Node → Location → Node
  | x, [] => x
  | .dir entries, [n] => .dir (Ordered.erase n entries)
  | .dir entries, n :: loc =>
    match entries.lookup n with
    | some x => .dir (Ordered.put n (remove x loc) entries)
    | none => .dir entries
  | x, _ :: _ => x

end Node

/-! ## Walking a tree -/

/-- what a walk says about a node -/
inductive Kind where
  | file (content : List UInt8)
  | link (target : Path)
  | dir
  deriving DecidableEq, Repr

mutual

/-- a node and everything below it, depth first, each with the names that lead to it -/
def Node.walk : Node → List (Location × Kind)
  | .file content _ => [([], .file content)]
  | .link target => [([], .link target)]
  | .dir entries => ([], .dir) :: Node.walkEntries entries

/-- everything below a directory, entry by entry -/
def Node.walkEntries : List (Name × Node) → List (Location × Kind)
  | [] => []
  | entry :: rest => Node.walkEntry entry ++ Node.walkEntries rest

/-- an entry and everything below it -/
def Node.walkEntry : Name × Node → List (Location × Kind)
  | (n, x) => (Node.walk x).map fun (loc, kind) => (n :: loc, kind)

end

/-- what is at a location of `after` and was not in `before` -/
def Node.additions (before after : Node) : List (Location × Kind) :=
  let known := before.walk
  after.walk.filter fun entry => !known.contains entry

end Benchwork
