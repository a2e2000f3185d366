import TaggedTests.Toml.Reading

/-! Blanks, line ends and comments of a TOML document. -/

namespace TaggedTests

namespace Toml

/-- Is the character one that no text may hold except between lines? -/
def isControl (c : Char) : Bool := (c.toNat < 0x20 && c ≠ '\t') || c.toNat = 0x7f

/-- Is the character a blank within a line? -/
def isSpace (c : Char) : Bool := c = ' ' || c = '\t'

/-- Reads blanks within a line. -/
def spaces : Reader Unit := do
  let _ ← Reader.run isSpace

/-- Reads a line end. -/
def newline : Reader Unit := Reader.exactly ['\n'] <|> Reader.exactly ['\r', '\n']

/-- Reads a comment up to the end of its line. -/
def comment : Reader Unit := do
  Reader.exactly ['#']
  let _ ← Reader.run fun c => !isControl c

/-- Reads a line end or finds the end of the text. -/
def lineEnd : Reader Unit := newline <|> Reader.finish

/-- Reads blanks and line ends. -/
def blanks : Reader Unit := do
  let _ ← Reader.many ((do let _ ← Reader.one isSpace) <|> newline)

/-- Reads blanks, line ends and comments. -/
def blankLines : Reader Unit := do
  let _ ← Reader.many ((do let _ ← Reader.one isSpace) <|> newline <|> comment)

/-- Reads what may follow on the line of a statement, up to the next line. -/
def restOfLine : Reader Unit :=
  Reader.expecting [.newline, .char '#'] do
    spaces
    let _ ← Reader.optional comment
    lineEnd

end Toml

end TaggedTests
