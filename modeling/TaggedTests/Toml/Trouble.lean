import TaggedTests.Text.Integer

/-! What can be wrong in a TOML document, and how it is told. -/

namespace TaggedTests

namespace Toml

/-- A part of a document that can be wrong. -/
inductive Part where
  | key
  | tableHeader
  | array
  | inlineTable
  | string
  | basicString
  | literalString
  | multilineBasicString
  | multilineLiteralString
  | escape
  | shortCode
  | longCode
  | integer
  | hexadecimal
  | octal
  | binary
  | float
  | date
  | time
  | offset
  deriving DecidableEq, Repr

/-- The name of a part. -/
def Part.name : Part → Text
  | key => "key".toList
  | tableHeader => "table header".toList
  | array => "array".toList
  | inlineTable => "inline table".toList
  | string => "string".toList
  | basicString => "basic string".toList
  | literalString => "literal string".toList
  | multilineBasicString => "multiline basic string".toList
  | multilineLiteralString => "multiline literal string".toList
  | escape => "escape sequence".toList
  | shortCode => "unicode 4-digit hex code".toList
  | longCode => "unicode 8-digit hex code".toList
  | integer => "integer".toList
  | hexadecimal => "hexadecimal integer".toList
  | octal => "octal integer".toList
  | binary => "binary integer".toList
  | float => "floating-point number".toList
  | date => "date-time".toList
  | time => "time".toList
  | offset => "time offset".toList

/-- Text between backticks. -/
def ticked (text : Text) : Text := '\x60' :: text ++ ['\x60']

/-- Something that could have stood at a place. -/
inductive Expected where
  | char (c : Char)
  | newline
  | doubleBracket
  | digit
  | leadingDigit
  deriving DecidableEq, Repr

/-- How something expected is named. -/
def Expected.name : Expected → Text
  | char c => ticked [c]
  | newline => "newline".toList
  | doubleBracket => ticked [']', ']']
  | digit => "digit".toList
  | leadingDigit => "leading digit".toList

/-- What is wrong with something that is written as it should be. -/
inductive Fault where
  | outOfRange
  | tooDeep
  | number (error : IntegerError)
  /-- A key that has a value already, with the path of its table if that is told. -/
  | duplicateKey (key : Text) (table : Option (List Text))
  /-- A path on which something of another kind stands in place of a table. -/
  | notATable (path : List Text) (kind : Text)
  deriving DecidableEq, Repr

/-- Keys joined by points. -/
def dotted (path : List Text) : Text := ['.'].intercalate path

/-- The wording of a fault. -/
def Fault.message : Fault → Text
  | outOfRange => "value is out of range".toList
  | tooDeep => "recursion limit exceeded".toList
  | number error => error.message
  | duplicateKey key table =>
    "duplicate key ".toList ++ ticked key ++
      match table with
      | none => []
      | some [] => " in document root".toList
      | some path => " in table ".toList ++ ticked (dotted path)
  | notATable path kind =>
    "dotted key ".toList ++ ticked (dotted path) ++
      " attempted to extend non-table type (".toList ++ kind ++ [')']

/-- What is wrong at a place of a document. -/
structure Trouble where
  /-- What is left of the document at the place. -/
  place : Text
  /-- The number of bytes by which the trouble lies behind the place. -/
  beyond : Nat := 0
  /-- The innermost part that is wrong. -/
  part : Option Part := none
  /-- What could have stood there. -/
  expected : List Expected := []
  fault : Option Fault := none
  deriving DecidableEq, Repr

namespace Trouble

/-- The trouble as one of a part, unless it is already one of a part within it. -/
def inside (part : Part) (trouble : Trouble) : Trouble :=
  { trouble with part := trouble.part <|> some part }

/-- The trouble with more things that could have stood at its place. -/
def expecting (more : List Expected) (trouble : Trouble) : Trouble :=
  { trouble with expected := trouble.expected ++ more }

/-- The wording of a trouble: the part, what was expected and the fault, on a line each. -/
def message (trouble : Trouble) : Text :=
  let expected :=
    if trouble.expected.isEmpty then []
    else ["expected ".toList ++ ", ".toList.intercalate (trouble.expected.map Expected.name)]
  ['\n'].intercalate
    ((trouble.part.map fun part => "invalid ".toList ++ part.name).toList ++ expected ++
      (trouble.fault.map Fault.message).toList)

end Trouble

/-- A stretch of a document, given by what is left of the document at its two ends. -/
structure Extent where
  start : Text
  stop : Text
  deriving DecidableEq, Repr

end Toml

end TaggedTests
