/-
Digests of files.

A digest is a short number that belongs to the bytes of a file. The bytes are filled up to whole blocks, and block after
block changes a state of a few words. Printed digests can be checked again later.
-/
import Benchwork.Number.Binary
import Benchwork.Shell.Tool.Basic

namespace Benchwork.Shell.Tool

open Benchwork.Text Tooling

/-! ## Words -/

/-- a number of a given count of bits -/
def wordOf (bits n : Nat) : Nat := n % Number.twoTo bits

def rotateRight (bits k x : Nat) : Nat := wordOf bits (x / Number.twoTo k + x * Number.twoTo (bits - k))

def rotateLeft (bits k x : Nat) : Nat := rotateRight bits (bits - k) x

def complementOf (bits x : Nat) : Nat := Number.twoTo bits - 1 - x

/-- the number of bytes, highest first -/
def bigEndian (bytes : List UInt8) : Nat := bytes.foldl (fun n b => n * 256 + b.toNat) 0

/-- a number as bytes, lowest first -/
def littleBytes (count n : Nat) : List UInt8 := (List.range count).map fun i => (n / Number.twoTo (8 * i)).toUInt8

/-- the bytes of a message filled up to whole blocks: a mark, zeros, and the length in bits at the end -/
def padded (block lengthSize : Nat) (big : Bool) (bytes : List UInt8) : List UInt8 :=
  let used := (bytes.length + 1 + lengthSize) % block
  let zeros := (block - used) % block
  let length := littleBytes lengthSize (8 * bytes.length)
  bytes ++ 0x80 :: List.replicate zeros 0 ++ (if big then length.reverse else length)

/-- the words of a block -/
def wordsOf (size : Nat) (big : Bool) (block : List UInt8) : Array Nat :=
  ((inGroups size (block.length + 1) block).map fun g => bigEndian (if big then g else g.reverse)).toArray

/-! ## Four words -/

def sineTable : Array Nat := 
  #[0xD76AA478, 0xE8C7B756, 0x242070DB, 0xC1BDCEEE, 0xF57C0FAF, 0x4787C62A, 0xA8304613, 0xFD469501,
   0x698098D8, 0x8B44F7AF, 0xFFFF5BB1, 0x895CD7BE, 0x6B901122, 0xFD987193, 0xA679438E, 0x49B40821,
   0xF61E2562, 0xC040B340, 0x265E5A51, 0xE9B6C7AA, 0xD62F105D, 0x02441453, 0xD8A1E681, 0xE7D3FBC8,
   0x21E1CDE6, 0xC33707D6, 0xF4D50D87, 0x455A14ED, 0xA9E3E905, 0xFCEFA3F8, 0x676F02D9, 0x8D2A4C8A,
   0xFFFA3942, 0x8771F681, 0x6D9D6122, 0xFDE5380C, 0xA4BEEA44, 0x4BDECFA9, 0xF6BB4B60, 0xBEBFBC70,
   0x289B7EC6, 0xEAA127FA, 0xD4EF3085, 0x04881D05, 0xD9D4D039, 0xE6DB99E5, 0x1FA27CF8, 0xC4AC5665,
   0xF4292244, 0x432AFF97, 0xAB9423A7, 0xFC93A039, 0x655B59C3, 0x8F0CCC92, 0xFFEFF47D, 0x85845DD1,
   0x6FA87E4F, 0xFE2CE6E0, 0xA3014314, 0x4E0811A1, 0xF7537E82, 0xBD3AF235, 0x2AD7D2BB, 0xEB86D391]

def md5Shifts : Array (Array Nat) := #[#[7, 12, 17, 22], #[5, 9, 14, 20], #[4, 11, 16, 23], #[6, 10, 15, 21]]

/-- a round on four words -/
def md5Round (w : Array Nat) (s : Nat × Nat × Nat × Nat) (i : Nat) : Nat × Nat × Nat × Nat :=
  let (a, b, c, d) := s
  let (f, g) := match i / 16 with
    | 0 => ((b &&& c) ||| (complementOf 32 b &&& d), i)
    | 1 => ((d &&& b) ||| (complementOf 32 d &&& c), (5 * i + 1) % 16)
    | 2 => (b ^^^ c ^^^ d, (3 * i + 5) % 16)
    | _ => (c ^^^ (b ||| complementOf 32 d), 7 * i % 16)
  let shift := (md5Shifts.getD (i / 16) #[]).getD (i % 4) 0
  let sum := wordOf 32 (a + f + sineTable.getD i 0 + w.getD g 0)
  (d, wordOf 32 (b + rotateLeft 32 shift sum), b, c)

/-- the digest with four words of 32 bits -/
def md5 (bytes : List UInt8) : List UInt8 :=
  let message := padded 64 8 false bytes
  let step := fun (s : Nat × Nat × Nat × Nat) (block : List UInt8) =>
    let w := wordsOf 4 false block
    let (a, b, c, d) := (List.range 64).foldl (md5Round w) s
    (wordOf 32 (s.1 + a), wordOf 32 (s.2.1 + b), wordOf 32 (s.2.2.1 + c), wordOf 32 (s.2.2.2 + d))
  let (a, b, c, d) := (inGroups 64 (message.length + 1) message).foldl step
    (0x67452301, 0xEFCDAB89, 0x98BADCFE, 0x10325476)
  [a, b, c, d].flatMap (littleBytes 4)

/-! ## Five words -/

/-- sixteen words made longer -/
def spread (count : Nat) (next : Array Nat → Nat → Nat) (w : Array Nat) : Array Nat :=
  (List.range (count - 16)).foldl (fun w i => w.push (next w (i + 16))) w

/-- a round on five words -/
def sha1Round (w : Array Nat) (s : Nat × Nat × Nat × Nat × Nat) (i : Nat) : Nat × Nat × Nat × Nat × Nat :=
  let (a, b, c, d, e) := s
  let (f, k) := match i / 20 with
    | 0 => ((b &&& c) ||| (complementOf 32 b &&& d), 0x5A827999)
    | 1 => (b ^^^ c ^^^ d, 0x6ED9EBA1)
    | 2 => ((b &&& c) ||| (b &&& d) ||| (c &&& d), 0x8F1BBCDC)
    | _ => (b ^^^ c ^^^ d, 0xCA62C1D6)
  (wordOf 32 (rotateLeft 32 5 a + f + e + k + w.getD i 0), a, rotateLeft 32 30 b, c, d)

/-- the digest with five words of 32 bits -/
def sha1 (bytes : List UInt8) : List UInt8 :=
  let message := padded 64 8 true bytes
  let step := fun (s : Nat × Nat × Nat × Nat × Nat) (block : List UInt8) =>
    let w := spread 80 (fun w i =>
      rotateLeft 32 1 (w.getD (i - 3) 0 ^^^ w.getD (i - 8) 0 ^^^ w.getD (i - 14) 0 ^^^ w.getD (i - 16) 0))
      (wordsOf 4 true block)
    let (a, b, c, d, e) := (List.range 80).foldl (sha1Round w) s
    (wordOf 32 (s.1 + a), wordOf 32 (s.2.1 + b), wordOf 32 (s.2.2.1 + c), wordOf 32 (s.2.2.2.1 + d),
      wordOf 32 (s.2.2.2.2 + e))
  let (a, b, c, d, e) := (inGroups 64 (message.length + 1) message).foldl step
    (0x67452301, 0xEFCDAB89, 0x98BADCFE, 0x10325476, 0xC3D2E1F0)
  [a, b, c, d, e].flatMap fun n => (littleBytes 4 n).reverse

/-! ## Eight words -/

/-- the greatest number whose `k`th power is not above `n`, found bit by bit -/
def rootOf (k n bits : Nat) : Nat :=
  (List.range (bits + 1)).foldr (fun i root =>
    let next := root + Number.twoTo i
    if (List.replicate k next).foldl (· * ·) 1 ≤ n then next else root) 0

def firstPrimes (count : Nat) : List Nat :=
  (((List.range 420).drop 2).filter fun n => ((List.range 21).drop 2).all fun d => d ≥ n || n % d ≠ 0).take count

/-- the first bits behind the point of the root of a prime -/
def rootBits (k bits p : Nat) : Nat := wordOf bits (rootOf k (p * Number.twoTo (k * bits)) (bits + 4))

/-- a digest with eight words: their bits, how many rounds there are, and how far words are turned -/
structure EightWords where
  bits : Nat
  rounds : Nat
  /-- for words that are added -/
  low : (Nat × Nat × Nat) × (Nat × Nat × Nat)
  /-- for the state -/
  high : (Nat × Nat × Nat) × (Nat × Nat × Nat)

def words32 : EightWords := ⟨32, 64, ((7, 18, 3), (17, 19, 10)), ((2, 13, 22), (6, 11, 25))⟩

def words64 : EightWords := ⟨64, 80, ((1, 8, 7), (19, 61, 6)), ((28, 34, 39), (14, 18, 41))⟩

namespace EightWords

def turned (e : EightWords) (t : Nat × Nat × Nat) (x : Nat) : Nat :=
  rotateRight e.bits t.1 x ^^^ rotateRight e.bits t.2.1 x ^^^ rotateRight e.bits t.2.2 x

/-- as `turned`, but the last part is shifted -/
def shifted (e : EightWords) (t : Nat × Nat × Nat) (x : Nat) : Nat :=
  rotateRight e.bits t.1 x ^^^ rotateRight e.bits t.2.1 x ^^^ (x / Number.twoTo t.2.2)

/-- a round; the state is given as its eight words in order -/
def round (e : EightWords) (k w : Array Nat) (s : Array Nat) (i : Nat) : Array Nat :=
  let word := fun (j : Nat) => s.getD j 0
  let choice := (word 4 &&& word 5) ^^^ (complementOf e.bits (word 4) &&& word 6)
  let majority := (word 0 &&& word 1) ^^^ (word 0 &&& word 2) ^^^ (word 1 &&& word 2)
  let t := word 7 + e.turned e.high.2 (word 4) + choice + k.getD i 0 + w.getD i 0
  let u := e.turned e.high.1 (word 0) + majority
  #[wordOf e.bits (t + u), word 0, word 1, word 2, wordOf e.bits (word 3 + t), word 4, word 5, word 6]

/-- the digest of bytes from a first state -/
def digest (e : EightWords) (first : List Nat) (bytes : List UInt8) : List UInt8 :=
  let size := e.bits / 8
  let message := padded (16 * size) (2 * size) true bytes
  let k := ((firstPrimes e.rounds).map (rootBits 3 e.bits)).toArray
  let step := fun (s : Array Nat) (block : List UInt8) =>
    let w := spread e.rounds (fun w i => wordOf e.bits
      (w.getD (i - 16) 0 + e.shifted e.low.1 (w.getD (i - 15) 0) + w.getD (i - 7) 0 +
        e.shifted e.low.2 (w.getD (i - 2) 0))) (wordsOf size true block)
    let t := (List.range e.rounds).foldl (e.round k w) s
    (s.zip t).map fun (a, b) => wordOf e.bits (a + b)
  let last := (inGroups (16 * size) (message.length + 1) message).foldl step first.toArray
  last.toList.flatMap fun n => (littleBytes size n).reverse

end EightWords

def sha256 (bytes : List UInt8) : List UInt8 := words32.digest ((firstPrimes 8).map (rootBits 2 32)) bytes

/-- begins with the second half of 64 bits of other roots, and gives seven words -/
def sha224 (bytes : List UInt8) : List UInt8 :=
  (words32.digest (((firstPrimes 16).drop 8).map fun p => wordOf 32 (rootBits 2 64 p)) bytes).take 28

def sha512 (bytes : List UInt8) : List UInt8 := words64.digest ((firstPrimes 8).map (rootBits 2 64)) bytes

def sha384 (bytes : List UInt8) : List UInt8 :=
  (words64.digest (((firstPrimes 16).drop 8).map (rootBits 2 64)) bytes).take 48

/-! ## Sums -/

/-- one byte of a cyclic sum of 32 bits -/
def cyclicStep (sum : Nat) (b : UInt8) : Nat :=
  (List.range 8).foldl (fun s _ =>
    let next := wordOf 32 (2 * s)
    if s / Number.twoTo 31 = 1 then next ^^^ 0x04C11DB7 else next) (sum ^^^ (b.toNat * Number.twoTo 24))

/-- the bytes of a length, lowest first, as many as it needs -/
def lengthBytes (fuel n : Nat) : List UInt8 :=
  match fuel with
  | 0 => []
  | fuel + 1 => if n = 0 then [] else (n % 256).toUInt8 :: lengthBytes fuel (n / 256)

/-- the cyclic sum of bytes and of their number -/
def cyclicSum (bytes : List UInt8) : Nat :=
  complementOf 32 ((bytes ++ lengthBytes 8 bytes.length).foldl cyclicStep 0)

/-- the sum of 16 bits that is turned before each byte -/
def turnedSum (bytes : List UInt8) : Nat :=
  bytes.foldl (fun s b => wordOf 16 (rotateRight 16 1 s + b.toNat)) 0

/-- the sum of all bytes, folded to 16 bits -/
def foldedSum (bytes : List UInt8) : Nat :=
  let s := bytes.foldl (fun n b => n + b.toNat) 0
  let r := s % 65536 + s / 65536 % 65536
  r % 65536 + r / 65536

/-- prints a line about each file; the input has no name -/
def sumLines (line : List UInt8 → String) (c : Choices) : Tooling Nat := do
  let mut code := 0
  for name in (if c.operands.isEmpty then ["-"] else c.operands) do
    match ← input name with
    | .ok bytes => say (line bytes ++ (if c.operands.isEmpty then "" else " " ++ name) ++ "\n")
    | .error e => do
      nameFault name e
      code := 1
  return code

def cksum (args : List String) : Tooling Nat := do
  let c ← choices 1 [] args
  sumLines (fun bytes => toString (cyclicSum bytes) ++ " " ++ toString bytes.length) c

def sum (args : List String) : Tooling Nat := do
  let c ← choices 1 [⟨"r", [], false⟩, ⟨"s", ["sysv"], false⟩] args
  let blocks := fun (size : Nat) (bytes : List UInt8) => toString ((bytes.length + size - 1) / size)
  let filled := fun (filler : Char) (width : Nat) (s : String) =>
    String.ofList (List.replicate (width - s.length) filler) ++ s
  if c.has "s" then sumLines (fun bytes => toString (foldedSum bytes) ++ " " ++ blocks 512 bytes) c
  else sumLines (fun bytes => filled '0' 5 (toString (turnedSum bytes)) ++ " " ++ filled ' ' 5 (blocks 1024 bytes)) c

/-! ## Lists of digests -/

/-- a kind of digest -/
structure Digest where
  title : String
  /-- how many bytes it has -/
  size : Nat
  compute : List UInt8 → List UInt8

def hexText (bytes : List UInt8) : String :=
  String.ofList (bytes.flatMap fun b => [Nat.digitChar (b.toNat / 16), Nat.digitChar (b.toNat % 16)])

/-- a name on one line: backslashes and line ends are escaped, and a mark in front says so -/
def lineName (name : String) : String × String :=
  if name.contains '\\' || name.contains '\n' then
    ("\\", String.ofList (name.toList.flatMap fun c =>
      if c = '\\' then ['\\', '\\'] else if c = '\n' then ['\\', 'n'] else [c]))
  else ("", name)

namespace Digest

/-- the digest and the name on a line of a list -/
def entry? (d : Digest) (line : List Char) : Option (String × String) :=
  let line := if line.head? = some '\\' then line.drop 1 else line
  let isHex := fun (cs : List Char) => cs.length = 2 * d.size && cs.all fun c =>
    c.isDigit || ('a' ≤ c.toLower && c.toLower ≤ 'f')
  let lower := fun (cs : List Char) => String.ofList (cs.map Char.toLower)
  let tag := (d.title ++ " (").toList
  if line.take tag.length = tag then
    let hex := line.drop (line.length - 2 * d.size)
    let name := (line.drop tag.length).take (line.length - tag.length - 2 * d.size - 4)
    if isHex hex && (line.drop (tag.length + name.length)).take 4 = ") = ".toList then
      some (lower hex, String.ofList name)
    else none
  else
    let hex := line.takeWhile (· ≠ ' ')
    match line.drop hex.length with
    | ' ' :: kind :: name =>
      if isHex hex && (kind = ' ' || kind = '*') && !name.isEmpty then some (lower hex, String.ofList name) else none
    | _ => none

/-- checks the entries of a list -/
def check (d : Digest) (quiet silent : Bool) (listName : String) : Tooling Bool := do
  match ← input listName with
  | .error e => do
    nameFault listName e
    return false
  | .ok bytes => do
    let lines := (linesOf (Octets.ofBytes bytes).toList).filter fun l => l.head? ≠ some '#'
    let mut wrongLines := 0
    let mut unread := 0
    let mut different := 0
    for line in lines do
      match d.entry? line with
      | none => wrongLines := wrongLines + 1
      | some (hex, name) =>
        match ← input name with
        | .error e => do
          nameFault name e
          if !silent then say (name ++ ": FAILED open or read\n")
          unread := unread + 1
        | .ok content =>
          if hexText (d.compute content) = hex then
            if !quiet && !silent then say (name ++ ": OK\n")
          else do
            if !silent then say (name ++ ": FAILED\n")
            different := different + 1
    if wrongLines = lines.length then do
      complain ((if listName = "-" then "'standard input'" else nameShown listName) ++
        ": no properly formatted checksum lines found")
      return false
    else do
      let warn := fun (n : Nat) (one many : String) =>
        if n = 0 || silent then pure () else complain ("WARNING: " ++ toString n ++ " " ++ (if n = 1 then one else many))
      warn wrongLines "line is improperly formatted" "lines are improperly formatted"
      warn unread "listed file could not be read" "listed files could not be read"
      warn different "computed checksum did NOT match" "computed checksums did NOT match"
      return unread = 0 && different = 0

/-- prints the digests of files, or checks those of lists -/
def run (d : Digest) (args : List String) : Tooling Nat := do
  let c ← choices 1
    [⟨"b", ["binary"], false⟩, ⟨"c", ["check"], false⟩, ⟨"t", ["text"], false⟩, ⟨"z", ["zero"], false⟩,
     ⟨"tag", ["tag"], false⟩, ⟨"quiet", ["quiet"], false⟩, ⟨"status", ["status"], false⟩, ⟨"w", ["warn"], false⟩,
     ⟨"strict", ["strict"], false⟩, ⟨"ignore-missing", ["ignore-missing"], false⟩] args
  let names := if c.operands.isEmpty then ["-"] else c.operands
  if c.has "c" then onEach names fun name => d.check (c.has "quiet") (c.has "status") name
  else
    onEach names fun name => do
      match ← input name with
      | .ok bytes => do
        let hex := hexText (d.compute bytes)
        let (mark, shown) := if c.has "z" then ("", name) else lineName name
        let line := if c.has "tag" then mark ++ d.title ++ " (" ++ shown ++ ") = " ++ hex
          else mark ++ hex ++ (if c.has "b" then " *" else "  ") ++ shown
        say (line ++ (if c.has "z" then String.singleton (Char.ofNat 0) else "\n"))
        return true
      | .error e => do
        nameFault name e
        return false

end Digest

def md5sum (args : List String) : Tooling Nat := Digest.run ⟨"MD5", 16, md5⟩ args

def sha1sum (args : List String) : Tooling Nat := Digest.run ⟨"SHA1", 20, sha1⟩ args

def sha224sum (args : List String) : Tooling Nat := Digest.run ⟨"SHA224", 28, sha224⟩ args

def sha256sum (args : List String) : Tooling Nat := Digest.run ⟨"SHA256", 32, sha256⟩ args

def sha384sum (args : List String) : Tooling Nat := Digest.run ⟨"SHA384", 48, sha384⟩ args

def sha512sum (args : List String) : Tooling Nat := Digest.run ⟨"SHA512", 64, sha512⟩ args

end Benchwork.Shell.Tool
