/-
Build descriptors: the files that tell how a repository is built.

`find` walks a directory tree, depth first and in byte order of the names, without following links (a link at the root
of the walk is entered), and keeps the regular files of a given name that are closest to the root. A walk opens every
directory by its path from the root on, so it fails at a directory that is too far down for that. A repository with a
Maven descriptor is a Maven project; one without, but with a Gradle wrapper script, is a Gradle project.
-/
import Benchwork.Build.Failure
import Benchwork.Files.Store

namespace Benchwork.Build

open Benchwork.Text

/-- the paths with the fewest components, in the order given; `best` are those kept so far, of depth `depth` -/
def shallowestFrom (best : List Path) (depth : Nat) : List Path → List Path
  | [] => best
  | p :: rest =>
    if best ≠ [] ∧ p.depth > depth then shallowestFrom best depth rest
    else if best = [] ∨ p.depth < depth then shallowestFrom [p] p.depth rest
    else shallowestFrom (best ++ [p]) depth rest

/-- the paths with the fewest components; all of them if several share that number -/
def shallowest (paths : List Path) : List Path := shallowestFrom [] 0 paths

namespace Descriptor

/-- the path of a node that a walk from `root` meets -/
def pathFrom (root : Path) (loc : Location) : Path := loc.foldl (fun p n => p.join ⟨n⟩) root

/-- the name under which a walk meets a node -/
def nameFrom (root : Path) (loc : Location) : Name := loc.getLast?.getD (root.fileName?.getD root.bytes)

/-- everything that there is from `root` on -/
def scene (fs : FileStore) (root : Path) : Except Fault (List (Location × Kind)) :=
  match fs.node .itself root with
  | .error f => .error f
  | .ok (.link target) =>
    match fs.node .target root with
    | .error f => .error f
    | .ok (.dir entries) => .ok (([], .link target) :: Node.walkEntries entries)
    | .ok _ => .ok [([], .link target)]
  | .ok x => .ok x.walk

/-- a directory with a path that is too long to open it by -/
def isOutOfReach (root : Path) : Location × Kind → Bool
  | (loc, .dir) => (pathFrom root loc).bytes.length > FileStore.pathLimit
  | _ => false

/-- everything that a walk from `root` meets; the first directory that it cannot open ends it -/
def walk (fs : FileStore) (root : Path) : Except BuildError (List (Location × Kind)) :=
  let fail (p : Path) (f : Fault) := Except.error (BuildError.file p (.walk p f))
  match scene fs root with
  | .error f => fail root f
  | .ok met =>
    match met.find? (isOutOfReach root) with
    | some (loc, _) => fail (pathFrom root loc) .nameTooLong
    | none => .ok met

/-- a regular file called `name` -/
def isMatch (root : Path) (name : Name) : Location × Kind → Bool
  | (loc, .file _) => nameFrom root loc = name
  | _ => false

/-- the regular files called `name` that are closest to `root` -/
def find (fs : FileStore) (root : Path) (name : String) : Except BuildError (List Path) :=
  (walk fs root).map fun met =>
    shallowest ((met.filter (isMatch root (Utf8.encode name))).map fun m => pathFrom root m.1)

def maven : String := "pom.xml"

def gradle : String := "gradlew"

end Descriptor

/-- how a repository is built, with the descriptors closest to its root -/
inductive BuildSystem where
  | maven (descriptors : List Path)
  | gradle (descriptors : List Path)
  | unknown
  deriving DecidableEq, Repr

/-- the build system of the repository in `dir`; Maven wins over Gradle -/
def BuildSystem.detect (fs : FileStore) (dir : Path) : Except BuildError BuildSystem := do
  let poms ← Descriptor.find fs dir Descriptor.maven
  if poms ≠ [] then return .maven poms
  let wrappers ← Descriptor.find fs dir Descriptor.gradle
  if wrappers ≠ [] then return .gradle wrappers
  return .unknown

end Benchwork.Build
