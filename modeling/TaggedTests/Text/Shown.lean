import TaggedTests.Text.Basic

/-! Text between double quotes, with characters that cannot be seen shown by their numbers. -/

namespace TaggedTests

namespace Text

/-- Ranges of characters without a form of their own: controls, blanks, marks of format, marks on
letters and private characters. -/
def unseenRanges : List (Nat × Nat) :=
  [(0x00, 0x1f), (0x7f, 0xa0), (0xad, 0xad), (0x300, 0x36f), (0x483, 0x489), (0x591, 0x5bd),
   (0x600, 0x605), (0x610, 0x61a), (0x61c, 0x61c), (0x64b, 0x65f), (0x6dd, 0x6dd), (0x70f, 0x70f),
   (0x1680, 0x1680), (0x180b, 0x180f), (0x1ab0, 0x1ace), (0x1dc0, 0x1dff), (0x2000, 0x200f),
   (0x2028, 0x202f), (0x205f, 0x206f), (0x20d0, 0x20f0), (0x3000, 0x3000), (0x302a, 0x302f),
   (0x3099, 0x309a), (0xe000, 0xf8ff), (0xfe00, 0xfe0f), (0xfe20, 0xfe2f), (0xfeff, 0xfeff),
   (0xfff0, 0xfffb), (0xfffe, 0xffff), (0xe0000, 0x10ffff)]

/-- Is the character one that is shown by its number? -/
def isUnseen (c : Char) : Bool :=
  unseenRanges.any fun range => range.1 ≤ c.toNat ∧ c.toNat ≤ range.2

/-- A character as it is shown between double quotes. -/
def shownChar (c : Char) : Text :=
  if c = '\x00' then ['\\', '0']
  else if c = '\t' then ['\\', 't']
  else if c = '\n' then ['\\', 'n']
  else if c = '\r' then ['\\', 'r']
  else if c = '"' ∨ c = '\\' then ['\\', c]
  else if isUnseen c then "\\u\x7b".toList ++ Nat.toDigits 16 c.toNat ++ ['\x7d']
  else [c]

/-- The text between double quotes. -/
def shown (text : Text) : Text := '"' :: text.flatMap shownChar ++ ['"']

end Text

end TaggedTests
