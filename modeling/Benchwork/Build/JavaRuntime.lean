/-
Java runtimes: a name and the directory that `JAVA_HOME` is set to.

A runtime is written `NAME=HOME`, cut at the first equality sign, blanks around both parts apart; neither part may be
blank. A list of them has commas in between, and blank items of it say nothing.
-/
import Benchwork.Build.Failure
import Benchwork.Text.Blank

namespace Benchwork.Build

open Benchwork.Text

structure JavaRuntime where
  name : String
  home : String
  deriving DecidableEq, Repr

namespace JavaRuntime

/-- reads `NAME=HOME` -/
def parseChars (value : List Char) : Except BuildError JavaRuntime :=
  match cutAt '=' value with
  | some (name, home) =>
    if trimChars name ≠ [] ∧ trimChars home ≠ [] then
      .ok ⟨String.ofList (trimChars name), String.ofList (trimChars home)⟩
    else .error (.invalidRuntime (String.ofList value))
  | none => .error (.invalidRuntime (String.ofList value))

def parse (value : String) : Except BuildError JavaRuntime := parseChars value.toList

/-- reads every text in order; the first that is refused decides -/
def parseEach (values : List (List Char)) : Except BuildError (List JavaRuntime) := values.mapM parseChars

/-- reads a list with commas, passing over blank items -/
def parseList (list : String) : Except BuildError (List JavaRuntime) :=
  parseEach ((list.toList.splitOn ',').filter fun item => !item.all isBlank)

/-- the runtimes to try when none are named, newest first -/
def defaults : List JavaRuntime :=
  [⟨"jdk13", "/usr/lib/jvm/java-1.13.0-openjdk-amd64"⟩,
   ⟨"jdk11", "/usr/lib/jvm/java-1.11.0-openjdk-amd64"⟩,
   ⟨"jdk8", "/usr/lib/jvm/java-8-oracle-amd64"⟩]

end JavaRuntime

end Benchwork.Build
