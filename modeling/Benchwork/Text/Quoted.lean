/-
Text as messages quote it.

A quoted text stands between quotation marks. Quotation mark and backslash are preceded by a backslash, tab, carriage
return, newline and NUL are written `\t`, `\r`, `\n`, `\0`, and any other character that is not plain as its code point
in hexadecimal, `\u{..}`. Bytes that are no text are written `\xFF`.
-/
import Benchwork.Text.Printable
import Benchwork.Text.Utf8

namespace Benchwork.Text

/-- one character inside quoted text -/
def escapeChar (c : Char) : List Char :=
  if c = '"' ∨ c = '\\' then ['\\', c]
  else if c = '\t' then ['\\', 't']
  else if c = '\r' then ['\\', 'r']
  else if c = '\n' then ['\\', 'n']
  else if c.toNat = 0 then ['\\', '0']
  else if isPlain c then [c]
  else ['\\', 'u', '\x7b'] ++ Nat.toDigits 16 c.toNat ++ ['\x7d']

def quoteChars (cs : List Char) : List Char := '"' :: cs.flatMap escapeChar ++ ['"']

/-- a text between quotation marks -/
def quote (s : String) : String := String.ofList (quoteChars s.toList)

/-- a byte outside any character, in two upper-case hexadecimal digits -/
def escapeByte (b : UInt8) : List Char :=
  let digit (n : Nat) : Char := (Nat.digitChar n).toUpper
  ['\\', 'x', digit (b.toNat / 16), digit (b.toNat % 16)]

def escapePiece : Utf8.Piece → List Char
  | .char c => escapeChar c
  | .stray bytes => bytes.flatMap escapeByte

/-- a byte string between quotation marks -/
def quoteBytes (bytes : List UInt8) : String :=
  String.ofList ('"' :: (Utf8.pieces bytes).flatMap escapePiece ++ ['"'])

/-- a list of quoted texts between brackets -/
def quoteList (items : List String) : String := "[" ++ ", ".intercalate (items.map quote) ++ "]"

end Benchwork.Text
