/-
How many columns a text takes.

Mostly the columns of its characters, one after the other. Some characters take less or more room because of what follows
them: a line end of two characters is one, a picture may be put together from several, a selector turns a picture into
text or text into a picture, and in some scripts letters merge. A text is therefore read from its end: `Ahead` is what a
character must know about the text that follows it, and `step` gives its columns and what the character before it must
know.
-/
import Benchwork.Text.Column
import Benchwork.Text.Pictograph

namespace Benchwork.Text

namespace Width

/-- a letter or sign that may merge with the letters before it -/
inductive Merging where
  | lamed
  | ya
  /-- a Buginese vowel sign joined to a letter ya -/
  | vowelYa
  | tifinagh
  /-- a Tifinagh consonant with a consonant joiner before it -/
  | joinedTifinagh
  | lisuTone
  | orkhonI
  | khmer
  deriving DecidableEq, Repr

/-- how many regional indicators stand before a joined picture -/
inductive Indicators where
  | one
  | even
  | odd
  deriving DecidableEq, Repr

/-- what follows a place in a text -/
inductive Following where
  | other
  | lineFeed
  | tone
  | indicator
  | indicators
  | picture
  /-- a joiner and a picture -/
  | joined
  /-- a keycap mark, a joiner and a picture -/
  | joinedKeycap
  | joinedIndicators (count : Indicators)
  /-- letters and then digits of a tag, its end, a joiner and a picture -/
  | joinedTag (letters digits : Nat)
  | alef
  /-- a merging letter, and whether a joiner stands before it -/
  | letter (m : Merging) (joined : Bool)
  deriving DecidableEq, Repr

inductive Selector where
  | text
  | picture
  deriving DecidableEq, Repr

/-- what a character must know about the text after it -/
structure Ahead where
  following : Following := .other
  selector : Option Selector := none
  deriving DecidableEq, Repr

def Following.isLetter : Following → Bool
  | .alef => true
  | .letter _ _ => true
  | _ => false

def Following.isJoined : Following → Bool
  | .joined => true
  | .joinedKeycap => true
  | _ => false

/-- a picture selector comes before `f` -/
def Following.asPicture (f : Following) : Ahead :=
  ⟨if f.isLetter || f.isJoined then f else .other, some .picture⟩

/-- a text selector comes before `f` -/
def Following.asText (f : Following) : Ahead := ⟨if f.isLetter then f else .other, some .text⟩

/-- what follows once a selector has met a character that it does not change -/
def Ahead.dropSelector (a : Ahead) : Following :=
  if a.selector.isSome && !a.following.isLetter then .other else a.following

/-! ## Kinds of characters -/

def between (low high : Nat) (c : Char) : Bool := low ≤ c.toNat && c.toNat ≤ high

def joiner : Char := Char.ofNat 0x200D

/-- marks that a display ignores and that may stand inside of merged letters -/
def isIgnorableMark (c : Char) : Bool :=
  inRanges [(0x34F, 0x34F), (0x17B4, 0x17B5), (0x180B, 0x180D), (0x180F, 0x180F), (0xFE00, 0xFE0F),
    (0xE0100, 0xE01EF)] c.toNat

/-- may stand between the letters of an Arabic ligature -/
def isTransparent (c : Char) : Bool := inRanges invisible c.toNat && !inRanges parting c.toNat

def isArabicAlef (c : Char) : Bool :=
  inRanges [(0x622, 0x623), (0x625, 0x625), (0x627, 0x627), (0x671, 0x673), (0x675, 0x675), (0x773, 0x774),
    (0x870, 0x882)] c.toNat

def isArabicLam (c : Char) : Bool :=
  inRanges [(0x644, 0x644), (0x6B5, 0x6B8), (0x76A, 0x76A), (0x8A6, 0x8A6), (0x8C7, 0x8C7)] c.toNat

/-- Khmer letters that are written below the one before them when a coeng sign precedes -/
def isKhmerSubscript (c : Char) : Bool :=
  inRanges [(0x1780, 0x1782), (0x1784, 0x1787), (0x1789, 0x178C), (0x178E, 0x1793), (0x1795, 0x1798), (0x179B, 0x179D),
    (0x17A0, 0x17A0), (0x17A2, 0x17A2), (0x17A7, 0x17A7), (0x17AB, 0x17AC), (0x17AF, 0x17AF)] c.toNat

def isTifinagh (c : Char) : Bool := between 0x2D31 0x2D65 c || c.toNat = 0x2D6F

/-- what a character is for the one before it -/
def kind (c : Char) : Following :=
  if c.toNat = 0x5DC then .letter .lamed false
  else if isArabicAlef c then .alef
  else if isKhmerSubscript c then .letter .khmer true
  else if c.toNat = 0x1A10 then .letter .ya false
  else if isTifinagh c then .letter .tifinagh false
  else if between 0xA4FC 0xA4FD c then .letter .lisuTone true
  else if c.toNat = 0x10C03 then .letter .orkhonI false
  else if isIndicator c then .indicator
  else if isTone c then .tone
  else if isPictograph c then .picture
  else .other

/-! ## Merged characters -/

/-- columns of a letter that merges with the letter after it, if it does -/
def mergeLetter (c : Char) (m : Merging) (joined : Bool) : Option (Int × Following) :=
  let n := c.toNat
  match m with
  | .lamed => if joined && n = 0x5D0 then some (0, .other) else none
  | .khmer => if n = 0x17D2 then some (-1, .other) else none
  | .ya => if joined && n = 0x1A17 then some (0, .letter .vowelYa true) else none
  | .vowelYa => if n = 0x1A15 then some (0, .other) else none
  | .tifinagh =>
    if n = 0x2D7F then some (1, .letter .joinedTifinagh true)
    else if joined && isTifinagh c then some (0, .other)
    else none
  | .joinedTifinagh => if isTifinagh c then some (-1, .other) else none
  | .lisuTone => if between 0xA4F8 0xA4FB c then some (0, .other) else none
  | .orkhonI => if joined && n = 0x10C32 then some (0, .other) else none

/-- columns of a character of a tag before a joined picture -/
def mergeTag (c : Char) (letters digits : Nat) : Option (Int × Following) :=
  if digits = 0 && letters < 6 && between 0xE0061 0xE007A c then some (0, .joinedTag (letters + 1) 0)
  else if between 0xE0030 0xE0039 c && ((digits = 0 && letters ≤ 4) || digits = 1 || digits = 2) then
    some (0, .joinedTag letters (digits + 1))
  else if c.toNat = 0x1F3F4 && (digits = 3 || (digits = 0 && 3 ≤ letters)) then some (0, .picture)
  else none

/-- columns of a character that becomes part of a joined picture, if it does -/
def mergeJoined (c : Char) : Option (Int × Following) :=
  if c.toNat = 0x20E3 then some (0, .joinedKeycap)
  else if isIndicator c then some (1, .joinedIndicators .one)
  else if isTone c then some (0, .tone)
  else if c.toNat = 0xE007F then some (0, .joinedTag 0 0)
  else if isPictograph c then some (0, .picture)
  else none

/-- columns of a character that takes another width because of what follows, if it does -/
def merge (c : Char) : Following → Option (Int × Following)
  | .alef => if isArabicLam c then some (0, .other) else if isTransparent c then some (0, .alef) else none
  | .letter m joined =>
    if c = joiner then some (0, .letter m true)
    else if isIgnorableMark c then some (0, .letter m joined)
    else mergeLetter c m joined
  | .tone => if takesTone c then some (0, .picture) else if c = joiner then some (0, .joined) else none
  | .indicator => if isIndicator c then some (1, .indicators) else none
  | .indicators =>
    if isIndicator c then some (1, .indicators) else if c = joiner then some (0, .joined) else none
  | .picture => if c = joiner then some (0, .joined) else none
  | .joined => mergeJoined c
  | .joinedIndicators .one => if isIndicator c then some (-1, .joinedIndicators .even) else none
  | .joinedIndicators .even =>
    if isIndicator c then some (3, .joinedIndicators .odd) else if c = joiner then some (0, .joined) else none
  | .joinedIndicators .odd =>
    if isIndicator c then some (-1, .joinedIndicators .even) else if c = joiner then some (0, .joined) else none
  | .joinedTag letters digits => mergeTag c letters digits
  | _ => none

/-! ## Texts -/

/-- columns of a character before a text, and what the character before it must know -/
def step (c : Char) (a : Ahead) : Int × Ahead :=
  if a.selector = some .picture && takesPicture c then (if a.following.isJoined then 0 else 2, ⟨.picture, none⟩)
  else if a.selector = some .text && takesText c then (1, {})
  else
    let f := a.dropSelector
    if c = '\n' then (1, ⟨.lineFeed, none⟩)
    else if c.toNat ≤ 0xA0 then (if c = '\r' && f = .lineFeed then 0 else 1, {})
    else if c.toNat = 0xFE0F then (0, f.asPicture)
    else if c.toNat = 0xFE0E then (0, f.asText)
    else
      match merge c f with
      | some (columns, f) => (columns, ⟨f, none⟩)
      | none => (charWidth c, ⟨kind c, none⟩)

/-- columns of a text and what a character before it must know -/
def total (cs : List Char) : Int × Ahead :=
  cs.foldr (fun c (sum, a) => let (columns, a) := step c a; (sum + columns, a)) (0, {})

end Width

/-- columns taken by a text -/
def width (s : String) : Nat := (Width.total s.toList).1.toNat

end Benchwork.Text
