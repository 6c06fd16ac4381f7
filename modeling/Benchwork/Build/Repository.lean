/-
Fetching and building repositories.

A repository goes through three stages: it is cloned and set to its revision, it is compiled, and the libraries it
depends on are copied. Two empty files at its root tell which stages are done, `.built` and `.libs`; a stage that is
done is not done again, and a repository with both is passed over. A Gradle project keeps its libraries in place, so
compiling it settles both. The first failure ends the run.
-/
import Benchwork.Build.Descriptor
import Benchwork.Build.Manifest
import Benchwork.Build.Runner

namespace Benchwork.Build

open Benchwork.Text

/-- what became of a repository -/
inductive Outcome where
  | alreadyBuilt
  | built
  deriving DecidableEq, Repr

/-- where repositories live and which runtimes to build them with -/
structure Workshop where
  reposDir : Path
  runtimes : List JavaRuntime
  deriving DecidableEq, Repr

/-- the directory of a repository, named after it -/
def Workshop.dirOf (shop : Workshop) (entry : ManifestEntry) : Path :=
  shop.reposDir.join (Path.ofString entry.repoName)

namespace Repository

def builtMarker : String := ".built"

def libsMarker : String := ".libs"

/-- the path of something at the root of a repository -/
def inside (dir : Path) (name : String) : Path := dir.join (Path.ofString name)

def mavenCompile : String := "mvn compile"

def mavenInstall : String := "mvn install -DskipTests"

def gradleClasses : String := "bash gradlew classes --no-daemon -g gcache"

/-- where the libraries of a repository are copied to -/
def libraryDir (fs : FileStore) (dir : Path) : Path := Path.absolute fs.cwdPath (inside dir "libs")

/-- the line that copies the libraries of a Maven project to `libs` -/
def mavenCopy (libs : Path) : String := "mvn dependency:copy-dependencies -DoutputDirectory=" ++ libs.display

def cloneCommand (url dir : String) : Command := ((({ program := "git" } : Command).arg "clone").arg url).arg dir

def checkoutCommand (revision : String) (dir : Path) : Command :=
  ((({ program := "git" } : Command).arg "checkout").arg revision).inDir dir

/-- the command of a build step: a line, run next to a descriptor -/
def stepCommand (line : String) (descriptor : Path) : Command :=
  (Command.ofLine line).inDir (descriptor.parent?.getD descriptor)

/-- the two lines added to a repository's ignore list -/
def ignoreLines : List UInt8 := Utf8.encode (builtMarker ++ "\n" ++ libsMarker ++ "\n")

/-- the failure for a repository without descriptors, with what it has at its root -/
def unknownSystem (fs : FileStore) (dir : Path) : BuildError :=
  let names := ((fs.entries dir).toOption.getD []).map Utf8.lossy
  .unknownBuildSystem dir (names.mergeSort (· ≤ ·))

variable {σ : Type}

/-- clones a repository and sets it to its revision -/
def fetch (runner : Runner σ) (entry : ManifestEntry) (dir : Path) (dirText : String) : Session σ Unit := do
  Session.issue runner (cloneCommand entry.url dirText)
  Session.issue runner (checkoutCommand entry.revision dir)
  Session.change (inside dir ".gitignore") (·.append (inside dir ".gitignore") ignoreLines)

/-- runs one build step under the first runtime that works -/
def buildStep (shop : Workshop) (runner : Runner σ) (line : String) (descriptor : Path) : Session σ Unit := do
  let _ ← Session.underRuntimes runner shop.runtimes (stepCommand line descriptor)

/-- compiles next to every descriptor -/
def compile (shop : Workshop) (runner : Runner σ) (system : BuildSystem) (dir : Path) : Session σ Unit :=
  match system with
  | .maven poms => poms.forM (buildStep shop runner mavenCompile)
  | .gradle wrappers => do
    wrappers.forM (buildStep shop runner gradleClasses)
    Session.change (inside dir libsMarker) (·.touch (inside dir libsMarker))
  | .unknown => do throw (unknownSystem (← get).files dir)

/-- installs and copies libraries next to every Maven descriptor -/
def copyLibraries (shop : Workshop) (runner : Runner σ) (system : BuildSystem) (dir : Path) : Session σ Unit :=
  match system with
  | .maven poms => do
    let libs := libraryDir (← get).files dir
    poms.forM fun pom => do
      buildStep shop runner mavenInstall pom
      buildStep shop runner (mavenCopy libs) pom
  | .gradle _ => throw (.gradleDependencies dir)
  | .unknown => do throw (unknownSystem (← get).files dir)

/-- does a stage and leaves its marker, unless the marker is there -/
def unlessMarked (marker : Path) (stage : Session σ Unit) : Session σ Unit := do
  if !(← Session.ask (·.pathExists marker)) then
    stage
    Session.change marker (·.touch marker)

/-- goes through the stages of a repository -/
def stages (shop : Workshop) (runner : Runner σ) (dir : Path) (system : BuildSystem) : Session σ Outcome := do
  unlessMarked (inside dir builtMarker) (compile shop runner system dir)
  unlessMarked (inside dir libsMarker) (copyLibraries shop runner system dir)
  return .built

/-- does the stages of a repository that are not done yet -/
def finish (shop : Workshop) (runner : Runner σ) (dir : Path) : Session σ Outcome := do
  if (← Session.ask (·.pathExists (inside dir builtMarker))) &&
      (← Session.ask (·.pathExists (inside dir libsMarker))) then
    return .alreadyBuilt
  stages shop runner dir (← MonadExcept.ofExcept (BuildSystem.detect (← get).files dir))

/-- fetches a repository if it is not there, and gives its directory -/
def arrive (shop : Workshop) (runner : Runner σ) (entry : ManifestEntry) : Session σ Path := do
  let dir := shop.dirOf entry
  match dir.text? with
  | none => throw (.pathNotText dir)
  | some dirText =>
    if !(← Session.ask (·.pathExists dir)) then
      fetch runner entry dir dirText
    return dir

/-- fetches a repository if it is not there, and builds it -/
def process (shop : Workshop) (runner : Runner σ) (entry : ManifestEntry) : Session σ Outcome := do
  finish shop runner (← arrive shop runner entry)

/-- processes the entries in order; the first failure ends it -/
def processAll (shop : Workshop) (runner : Runner σ) : List ManifestEntry → Session σ Unit
  | [] => return ()
  | e :: rest => do
    let _ ← process shop runner e
    processAll shop runner rest

/-- processes the entries, below a directory that is made for them -/
def run (shop : Workshop) (runner : Runner σ) (entries : List ManifestEntry) : Session σ Unit := do
  Session.makeDirs shop.reposDir
  processAll shop runner entries

end Repository

end Benchwork.Build
