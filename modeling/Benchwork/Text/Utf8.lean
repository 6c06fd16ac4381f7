/-
Bytes read as UTF-8.

`pieces` cuts a byte string into characters and stray runs. A stray run is what could not be read: the longest start of
a well-formed sequence that stands there, or one byte if none does. `decode?` accepts the byte strings without a stray
run, `lossy` puts one replacement character for each of them, and `encode` writes a text.
-/

namespace Benchwork.Text.Utf8

/-- a character, or bytes that are none -/
inductive Piece where
  | char (c : Char)
  | stray (bytes : List UInt8)
  deriving DecidableEq

def isTail (b : UInt8) : Bool := 0x80 ≤ b && b ≤ 0xBF

/-- the six low bits of a continuation byte -/
def tailBits (b : UInt8) : Nat := b.toNat - 0x80

/-- what may follow the first byte of a sequence of three or four -/
def isSecond (first second : UInt8) : Bool :=
  if first == 0xE0 then 0xA0 ≤ second && second ≤ 0xBF
  else if first == 0xED then 0x80 ≤ second && second ≤ 0x9F
  else if first == 0xF0 then 0x90 ≤ second && second ≤ 0xBF
  else if first == 0xF4 then 0x80 ≤ second && second ≤ 0x8F
  else isTail second

/-- the piece that starts with byte `a`, and how many of the bytes after it belong to it -/
def piece (a : UInt8) (rest : List UInt8) : Piece × Nat :=
  if a < 0x80 then (.char (Char.ofNat a.toNat), 0)
  else if 0xC2 ≤ a && a ≤ 0xDF then
    match rest with
    | b :: _ =>
      if isTail b then (.char (Char.ofNat ((a.toNat - 0xC0) * 64 + tailBits b)), 1) else (.stray [a], 0)
    | [] => (.stray [a], 0)
  else if 0xE0 ≤ a && a ≤ 0xEF then
    match rest with
    | b :: rest =>
      if isSecond a b then
        match rest with
        | c :: _ =>
          if isTail c then (.char (Char.ofNat (((a.toNat - 0xE0) * 64 + tailBits b) * 64 + tailBits c)), 2)
          else (.stray [a, b], 1)
        | [] => (.stray [a, b], 1)
      else (.stray [a], 0)
    | [] => (.stray [a], 0)
  else if 0xF0 ≤ a && a ≤ 0xF4 then
    match rest with
    | b :: rest =>
      if isSecond a b then
        match rest with
        | c :: rest =>
          if isTail c then
            match rest with
            | d :: _ =>
              if isTail d then
                (.char (Char.ofNat ((((a.toNat - 0xF0) * 64 + tailBits b) * 64 + tailBits c) * 64 + tailBits d)), 3)
              else (.stray [a, b, c], 2)
            | [] => (.stray [a, b, c], 2)
          else (.stray [a, b], 1)
        | [] => (.stray [a, b], 1)
      else (.stray [a], 0)
    | [] => (.stray [a], 0)
  else (.stray [a], 0)

/-- characters and stray runs of a byte string, in order -/
def pieces (bytes : List UInt8) : List Piece :=
  match bytes with
  | [] => []
  | a :: rest => (piece a rest).1 :: pieces (rest.drop (piece a rest).2)
termination_by bytes.length
decreasing_by simp only [List.length_drop, List.length_cons]; omega

def Piece.char? : Piece → Option Char
  | .char c => some c
  | .stray _ => none

/-- the text, if the bytes are well-formed throughout -/
def decode? (bytes : List UInt8) : Option String :=
  ((pieces bytes).mapM Piece.char?).map String.ofList

/-- the text with a replacement character for every stray run -/
def lossy (bytes : List UInt8) : String :=
  String.ofList ((pieces bytes).map fun p => p.char?.getD '�')

/-- the bytes of a text -/
def encode (s : String) : List UInt8 := s.toList.flatMap String.utf8EncodeChar

end Benchwork.Text.Utf8
