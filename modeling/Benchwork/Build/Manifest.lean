/-
The manifest: which repositories to build, at which revisions.

A line has a URL and a revision with blanks between them. Lines that start with `#` and blank lines say nothing; any
other line is refused with its number and content, and the first one that is refused decides. The directory of a
repository is named after the last segment of its URL.
-/
import Benchwork.Build.Failure
import Benchwork.Text.Blank
import Benchwork.Text.Pattern

namespace Benchwork.Build

open Benchwork.Text

/-- a repository and the revision to build it at -/
structure ManifestEntry where
  url : String
  revision : String
  deriving DecidableEq, Repr

namespace ManifestEntry

/-- the last segment of a URL, slashes at its end apart, without `.git` at its end -/
def repoNameOf (url : List Char) : String :=
  let trimmed := dropEndWhile (· = '/') url
  let last := String.ofList ((trimmed.reverse.takeWhile (· ≠ '/')).reverse)
  (dropEnd? ".git" last).getD last

/-- the name of the directory that holds the repository -/
def repoName (e : ManifestEntry) : String := repoNameOf e.url.toList

end ManifestEntry

namespace Manifest

/-- a line that says nothing -/
def isSilent (line : List Char) : Bool := line.head? = some '#' || line.all isBlank

/-- the entry on a line with exactly two words -/
def entry? (line : List Char) : Option ManifestEntry :=
  match wordsOf line with
  | [url, revision] => some ⟨String.ofList url, String.ofList revision⟩
  | _ => none

/-- the entries of lines counted from `number` -/
def parseLines (number : Nat) : List (List Char) → Except BuildError (List ManifestEntry)
  | [] => .ok []
  | line :: rest =>
    if isSilent line then parseLines (number + 1) rest
    else
      match entry? line with
      | none => .error (.manifestLine number (String.ofList line))
      | some e => (parseLines (number + 1) rest).map (e :: ·)

/-- the entries of a manifest, in order -/
def parse (text : String) : Except BuildError (List ManifestEntry) := parseLines 1 (linesOf text.toList)

end Manifest

end Benchwork.Build
