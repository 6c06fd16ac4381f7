/-
Texts whose characters are bytes.

A program sees its arguments, its variables and its input as bytes, whatever they spell. Here such a byte string is
a text in which every character stands for one byte. `ofText` and `ofBytes` make one, `toBytes` gives the bytes back.
-/
import Benchwork.Text.Utf8

namespace Benchwork.Text.Octets

def ofBytes (bytes : List UInt8) : String := String.ofList (bytes.map fun b => Char.ofNat b.toNat)

def toBytes (s : String) : List UInt8 := s.toList.map fun c => c.toNat.toUInt8

/-- the bytes of a text -/
def ofText (s : String) : String := ofBytes (Utf8.encode s)

end Benchwork.Text.Octets
