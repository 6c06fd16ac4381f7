/-
The file store: a tree and a current directory.

A path is looked up name by name from the top or from the current directory, following symbolic links on the way, as
many as `linkLimit` in all; neither a name nor a path may be too long. `lookup` says where it leads: to a node, or to a
free name in a directory that is there.
Everything else is built on it: reading and writing files, making directories, listing them and walking a tree.
Operations that change the store give the changed store or the fault that stopped them.
-/
import Benchwork.Files.Fault
import Benchwork.Files.Node

namespace Benchwork

open Benchwork.Text

structure FileStore where
  root : Node
  cwd : Location
  deriving Inhabited

namespace FileStore

/-- links followed in one look-up before it is given up -/
def linkLimit : Nat := 40

/-- the longest name of a directory entry, in bytes -/
def nameLimit : Nat := 255

/-- the longest path, in bytes -/
def pathLimit : Nat := 4095

/-- where a path leads -/
inductive Spot where
  | found (loc : Location) (node : Node)
  | vacant (dir : Location) (name : Name)

/-- what a path is looked up for -/
inductive Purpose where
  /-- what it leads to -/
  | target
  /-- what is there, even if it is a link -/
  | itself
  /-- a file to be written, which no slash may follow -/
  | writing
  deriving DecidableEq

/-- one step of a look-up -/
inductive Step where
  | here
  | up
  | down (n : Name)
  /-- a slash at the end, which asks for a directory -/
  | slash
  deriving DecidableEq

/-- what stands between the slashes of a path, where there is something -/
def segmentsOf (p : Path) : List Name := (p.bytes.splitOn Path.slash).filter (· ≠ [])

/-- the step that a segment asks for -/
def Step.ofSegment (s : Name) : Step :=
  if s = [Path.dot] then .here else if s = [Path.dot, Path.dot] then .up else .down s

/-- the steps that a path asks for -/
def stepsOf (p : Path) : List Step :=
  let steps := (segmentsOf p).map Step.ofSegment
  if p.bytes.getLast? = some Path.slash then steps ++ [.slash] else steps

/-- a file to be written has nothing but slashes behind its name -/
def isBarred (purpose : Purpose) (rest : List Step) : Bool :=
  purpose = .writing ∧ rest ≠ [] ∧ rest.all (· = .slash)

/-- directories entered on the way from the top, the last one first -/
abbrev Trail := List (Name × Node)

namespace Trail

def location (trail : Trail) : Location := (trail.map (·.1)).reverse

/-- the directory at the end of a trail from `root` -/
def last (root : Node) (trail : Trail) : Node :=
  match trail with
  | [] => root
  | (_, x) :: _ => x

/-- the trail along a location, if it leads to a directory -/
def along (trail : Trail) (x : Node) : Location → Option Trail
  | [] => if x.isDir then some trail else none
  | n :: loc => (x.child? n).bind fun y => along ((n, y) :: trail) y loc

end Trail

/-- takes steps from the end of a trail; `follow` takes the steps that are left behind a link -/
def traceSteps (root : Node) (purpose : Purpose) (follow : Trail → List Step → Except Fault Spot) (trail : Trail) :
    List Step → Except Fault Spot
  | [] => .ok (.found trail.location (trail.last root))
  | .here :: rest => traceSteps root purpose follow trail rest
  | .slash :: rest => traceSteps root purpose follow trail rest
  | .up :: rest => traceSteps root purpose follow trail.tail rest
  | .down n :: rest =>
    if isBarred purpose rest then .error .isDirectory
    else if n.length > nameLimit then .error .nameTooLong
    else
      match (trail.last root).child? n with
      | none =>
        if !(trail.last root).isDir then .error .notDirectory
        else if rest = [] then .ok (.vacant trail.location n)
        else .error .notFound
      | some (.file content executable) =>
        if rest = [] then .ok (.found (Trail.location ((n, .empty) :: trail)) (.file content executable))
        else .error .notDirectory
      | some (.dir entries) => traceSteps root purpose follow ((n, .dir entries) :: trail) rest
      | some (.link target) =>
        if rest = [] ∧ purpose = .itself then
          .ok (.found (Trail.location ((n, .empty) :: trail)) (.link target))
        else if target.bytes = [] then .error .notFound
        else follow (if target.isAbsolute then [] else trail) (stepsOf target ++ rest)

/-- takes steps from the end of a trail, following `links` links at most -/
def trace (root : Node) (purpose : Purpose) : Nat → Trail → List Step → Except Fault Spot
  | 0 => traceSteps root purpose fun _ _ => .error .tooManyLinks
  | links + 1 => traceSteps root purpose (trace root purpose links)

/-- where the look-up of a path starts -/
def start (fs : FileStore) (p : Path) : Location := if p.isAbsolute then [] else fs.cwd

/-- where a path leads -/
def lookup (fs : FileStore) (purpose : Purpose) (p : Path) : Except Fault Spot :=
  if p.bytes.contains 0 then .error .nulInPath
  else if p.bytes = [] then .error .notFound
  else if p.bytes.length > pathLimit then .error .nameTooLong
  else
    match Trail.along [] fs.root (fs.start p) with
    | some trail => trace fs.root purpose linkLimit trail (stepsOf p)
    | none => .error .notFound

/-- the node that a path leads to -/
def node (fs : FileStore) (purpose : Purpose) (p : Path) : Except Fault Node :=
  match fs.lookup purpose p with
  | .ok (.found _ x) => .ok x
  | .ok (.vacant _ _) => .error .notFound
  | .error e => .error e

/-! ## Questions -/

/-- the path leads somewhere -/
def pathExists (fs : FileStore) (p : Path) : Bool := (fs.node .target p).isOk

def isDir (fs : FileStore) (p : Path) : Bool :=
  match fs.node .target p with
  | .ok x => x.isDir
  | .error _ => false

/-- the bytes of a file -/
def read (fs : FileStore) (p : Path) : Except Fault (List UInt8) :=
  match fs.node .target p with
  | .ok (.file content _) => .ok content
  | .ok (.dir _) => .error .isDirectory
  | .ok (.link _) => .error .notFound
  | .error e => .error e

/-- the text of a file -/
def readText (fs : FileStore) (p : Path) : Except Fault String :=
  match fs.read p with
  | .error e => .error e
  | .ok bytes =>
    match Utf8.decode? bytes with
    | some s => .ok s
    | none => .error .notText

/-- the names in a directory, in byte order -/
def entries (fs : FileStore) (p : Path) : Except Fault (List Name) :=
  match fs.node .target p with
  | .ok (.dir es) => .ok (es.map (·.1))
  | .ok _ => .error .notDirectory
  | .error e => .error e

/-- the current directory as a path -/
def cwdPath (fs : FileStore) : Path := fs.cwd.foldl (fun p n => p.join ⟨n⟩) ⟨[Path.slash]⟩

/-! ## Changes -/

/-- the store with `x` at a location -/
def put (fs : FileStore) (loc : Location) (x : Node) : FileStore := { fs with root := fs.root.set loc x }

/-- without the slashes at the end, unless there is nothing else -/
def dropSlashes (p : Path) : Path :=
  let kept := (p.bytes.reverse.dropWhile (· = Path.slash)).reverse
  if kept = [] then p else ⟨kept⟩

/-- makes one directory -/
def makeDir (fs : FileStore) (p : Path) : Except Fault FileStore :=
  if !p.bytes.contains 0 && p.bytes.length > pathLimit then .error .nameTooLong
  else
    match fs.lookup .itself (dropSlashes p) with
    | .ok (.vacant dir n) => .ok (fs.put (dir ++ [n]) Node.empty)
    | .ok (.found _ _) => .error .exists
    | .error e => .error e

/-- makes a directory and the directories above it; one that is there already will do. The directories made before a
fault stay -/
def makeDirs (fs : FileStore) (p : Path) : Except Fault Unit × FileStore :=
  if p.bytes = [] then (.ok (), fs)
  else
    match fs.makeDir p with
    | .ok fs' => (.ok (), fs')
    | .error .notFound =>
      match _h : p.parent? with
      | none => (.error .noParent, fs)
      | some q =>
        match makeDirs fs q with
        | (.error e, fs') => (.error e, fs')
        | (.ok (), fs') =>
          match fs'.makeDir p with
          | .ok fs'' => (.ok (), fs'')
          | .error e => (if fs'.isDir p then .ok () else .error e, fs')
    | .error e => (if fs.isDir p then .ok () else .error e, fs)
termination_by p.bytes.length
decreasing_by exact Path.length_parent_lt _h

/-- the store after a change that was carried out as a whole -/
def whole (r : Except Fault Unit × FileStore) : Except Fault FileStore := r.1.map fun _ => r.2

/-- opens a file for writing, making it if it is not there, and replaces its content by `change` of it -/
def edit (fs : FileStore) (p : Path) (change : List UInt8 → List UInt8) : Except Fault FileStore :=
  match fs.lookup .writing p with
  | .ok (.found loc (.file content executable)) => .ok (fs.put loc (.file (change content) executable))
  | .ok (.found _ (.dir _)) => .error .isDirectory
  | .ok (.found _ (.link _)) => .error .tooManyLinks
  | .ok (.vacant dir n) => .ok (fs.put (dir ++ [n]) (.file (change []) false))
  | .error e => .error e

/-- adds bytes at the end of a file -/
def append (fs : FileStore) (p : Path) (bytes : List UInt8) : Except Fault FileStore := fs.edit p (· ++ bytes)

/-- gives a file a new content -/
def write (fs : FileStore) (p : Path) (bytes : List UInt8) : Except Fault FileStore := fs.edit p fun _ => bytes

/-- makes sure that a file is there -/
def touch (fs : FileStore) (p : Path) : Except Fault FileStore := fs.append p []

/-- marks a file as executable -/
def allowExecution (fs : FileStore) (p : Path) : Except Fault FileStore :=
  match fs.lookup .target p with
  | .ok (.found loc (.file content _)) => .ok (fs.put loc (.file content true))
  | .ok _ => .ok fs
  | .error e => .error e

/-- makes a symbolic link -/
def makeLink (fs : FileStore) (p target : Path) : Except Fault FileStore :=
  match fs.lookup .itself p with
  | .ok (.vacant dir n) => .ok (fs.put (dir ++ [n]) (.link target))
  | .ok (.found _ _) => .error .exists
  | .error e => .error e

/-- takes away a file, a link or a whole directory -/
def remove (fs : FileStore) (p : Path) : Except Fault FileStore :=
  match fs.lookup .itself p with
  | .ok (.found loc _) => .ok { fs with root := fs.root.remove loc }
  | .ok (.vacant _ _) => .error .notFound
  | .error e => .error e

/-! ## Laying out a tree -/

/-- one item of a tree to be laid out -/
inductive Item where
  | file (path : Path) (content : List UInt8) (executable : Bool)
  | dir (path : Path)
  | link (path target : Path)

/-- lays out one item below `base`, with the directories above it -/
def layItem (base : Path) (fs : FileStore) (item : Item) : Except Fault FileStore :=
  match item with
  | .dir p => whole (fs.makeDirs (base.join p))
  | .file p content executable => do
    let fs ← whole (fs.makeDirs ((base.join p).parent?.getD ⟨[]⟩))
    let fs ← fs.write (base.join p) content
    if executable then fs.allowExecution (base.join p) else pure fs
  | .link p target => do
    let fs ← whole (fs.makeDirs ((base.join p).parent?.getD ⟨[]⟩))
    fs.makeLink (base.join p) target

/-- lays out a tree below `base`, item by item -/
def layOut (fs : FileStore) (base : Path) (items : List Item) : Except Fault FileStore :=
  items.foldlM (layItem base) fs

end FileStore

end Benchwork
