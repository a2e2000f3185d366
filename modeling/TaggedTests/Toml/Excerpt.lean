import TaggedTests.Text.Utf8
import TaggedTests.Toml.Trouble

/-! The line of a document in which something is wrong, with the place marked under it. -/

namespace TaggedTests

/-- A stretch of a document in bytes. -/
structure Excerpt where
  document : Text
  start : Nat
  width : Nat
  deriving DecidableEq, Repr

namespace Excerpt

/-- The byte that is pointed at, which is the last one where the stretch begins behind it. -/
def index (excerpt : Excerpt) : Nat := min excerpt.start ((Text.utf8 excerpt.document).length - 1)

/-- The bytes in front of the one that is pointed at. -/
def before (excerpt : Excerpt) : Bytes := (Text.utf8 excerpt.document).take excerpt.index

/-- The number of the line, counted from nought. -/
def lineIndex (excerpt : Excerpt) : Nat := (excerpt.before.filter (· = 10)).length

/-- The line that is pointed at. -/
def line (excerpt : Excerpt) : Text :=
  (excerpt.document.splitOn '\n').getD excerpt.lineIndex []

/--
The number of the column, counted from nought.

Columns are characters, but bytes where the place lies within a character.
-/
def columnIndex (excerpt : Excerpt) : Nat :=
  let upTo := (Text.utf8 excerpt.document).take (excerpt.index + 1)
  let bytes := (excerpt.before.reverse.takeWhile (· ≠ 10)).reverse ++ upTo.drop excerpt.index
  let count := ((Text.ofUtf8? bytes).map List.length).getD bytes.length
  count - 1 + (excerpt.start - excerpt.index)

/-- The marks under the stretch, of which there is at least one. -/
def marks (excerpt : Excerpt) : Text :=
  List.replicate (max 1 (min excerpt.width (Text.utf8 excerpt.line).length)) '^'

/-- What is wrong with the stretch, under its line. -/
def tell (excerpt : Excerpt) (reason : Text) : Text :=
  let number := Text.ofNat (excerpt.lineIndex + 1)
  let margin := List.replicate (number.length + 1) ' '
  "TOML parse error at line ".toList ++ number ++ ", column ".toList ++
    Text.ofNat (excerpt.columnIndex + 1) ++ ['\n'] ++
    margin ++ "|\n".toList ++
    number ++ " | ".toList ++ excerpt.line ++ ['\n'] ++
    margin ++ '|' :: List.replicate (excerpt.columnIndex + 1) ' ' ++ excerpt.marks ++ ['\n'] ++
    reason ++ ['\n']

end Excerpt

namespace Toml

/-- The number of bytes in front of a place, given what is left of the document there. -/
def offset (document place : Text) : Nat :=
  (Text.utf8 document).length - (Text.utf8 place).length

/-- The stretch of a document that an extent is. -/
def Extent.excerpt (extent : Extent) (document : Text) : Excerpt :=
  ⟨document, offset document extent.start, offset extent.start extent.stop⟩

/-- The byte at which trouble lies. -/
def Trouble.excerpt (trouble : Trouble) (document : Text) : Excerpt :=
  ⟨document, offset document trouble.place + trouble.beyond, 1⟩

end Toml

end TaggedTests
