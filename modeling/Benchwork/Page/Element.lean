/-
Elements of a vector page and their text.

An element has a tag, attributes and perhaps character data. Character data is escaped when it is written, so no text can
end an element or start another one.
-/
import Benchwork.Text.Pattern

namespace Benchwork.Page

open Benchwork.Text

/-- character data: the four characters with a meaning give way to their entities, one kind after the other -/
def escape (s : String) : String :=
  replace "\"" "&quot;" (replace ">" "&gt;" (replace "<" "&lt;" (replace "&" "&amp;" s)))

structure Element where
  tag : String
  attributes : List (String × String)
  content : Option String := none
  deriving DecidableEq, Repr

namespace Element

def renderAttribute (a : String × String) : String := " " ++ a.1 ++ "=\"" ++ a.2 ++ "\""

/-- the text of an element; without character data its tag is closed at once -/
def render (e : Element) : String :=
  let opening := "<" ++ e.tag ++ String.join (e.attributes.map renderAttribute)
  match e.content with
  | none => opening ++ "/>"
  | some s => opening ++ ">" ++ escape s ++ "</" ++ e.tag ++ ">"

end Element

end Benchwork.Page
