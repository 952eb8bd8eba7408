import Resilience.Text.Chars

/-!
Texts in quotes for people who look for mistakes: what cannot be seen is escaped.
-/

namespace Resilience.Text

/-- Marks that join the character before them, and characters without a picture of their own. -/
def unseenRanges : List (Nat × Nat) :=
  [(0, 31), (127, 160), (173, 173), (0x300, 0x36f), (0x483, 0x489), (0x591, 0x5bd),
    (0x600, 0x605), (0x610, 0x61c), (0x64b, 0x65f), (0x6dd, 0x6dd), (0x70f, 0x70f),
    (0x1680, 0x1680), (0x180b, 0x180f), (0x1ab0, 0x1ace), (0x1dc0, 0x1dff), (0x2000, 0x200f),
    (0x2028, 0x202f), (0x205f, 0x206f), (0x20d0, 0x20f0), (0x3000, 0x3000), (0x302a, 0x302f),
    (0x3099, 0x309a), (0xe000, 0xf8ff), (0xfe00, 0xfe0f), (0xfe20, 0xfe2f), (0xfeff, 0xfeff),
    (0xff9e, 0xff9f), (0xfff0, 0xfffb), (0xe0000, 0x10ffff)]

def escapeWith (letter : Char) : List Char := ['\\', letter]

/-- A character as it stands between quotes. An apostrophe is escaped only if that is asked for. -/
def shownChar (apostrophes : Bool) (c : Char) : List Char :=
  if c = '\x00' then escapeWith '0'
  else if c = '\t' then escapeWith 't'
  else if c = '\n' then escapeWith 'n'
  else if c = '\r' then escapeWith 'r'
  else if c = '"' || c = '\\' || (c = '\x27' && apostrophes) then escapeWith c
  else if inRanges unseenRanges c then
    ['\\', 'u', '\x7b'] ++ Nat.toDigits 16 c.toNat ++ ['\x7d']
  else [c]

def inQuotes (cs : List Char) : String := String.ofList ('"' :: cs ++ ['"'])

def shown (s : String) : String := inQuotes (s.toList.flatMap (shownChar false))

/-- A byte that belongs to no character. -/
def shownByte (b : UInt8) : List Char :=
  ['\\', 'x', (Nat.digitChar (b.toNat / 16)).toUpper, (Nat.digitChar (b.toNat % 16)).toUpper]

/-- The first character of a text in UTF-8. -/
def firstChar? (bytes : List UInt8) : Option Char :=
  (ByteArray.mk (bytes.take 4).toArray).utf8DecodeChar? 0

/-- At most so many characters or bytes of a text in UTF-8 that may be broken. -/
def shownPieces : Nat → List UInt8 → List Char
  | 0, _ | _, [] => []
  | fuel + 1, b :: rest =>
    match firstChar? (b :: rest) with
    | some c => shownChar true c ++ shownPieces fuel ((b :: rest).drop c.utf8Size)
    | none => shownByte b ++ shownPieces fuel rest

def shownBytes (bytes : List UInt8) : String := inQuotes (shownPieces bytes.length bytes)

end Resilience.Text
