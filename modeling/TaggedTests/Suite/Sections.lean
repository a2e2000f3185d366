import TaggedTests.Suite

/-!
The older format: sections between line markers, each one test.

A section follows the marker of its input. The command line may stand in front of a marker of its
own, and the expected output follows another.
-/

namespace TaggedTests

namespace Sections

/-- The marker in front of each section. -/
def inputMarker : Text := "[INPUT]\n".toList

/-- The marker between the command line and the input. -/
def cmdMarker : Text := "\x7bCMD\x7d\n".toList

/-- The marker between the input and the expected output. -/
def outputMarker : Text := "[OUTPUT]\n".toList

/-- A text without the one newline at its end, which ends the line of arguments. -/
def dropNewline (text : Text) : Text :=
  if text.getLast? = some '\n' then text.dropLast else text

/-- The test with the command line and the input of a section. -/
def withInput (registry : Registry) (test : Test) (text : Text) : Test :=
  match Text.cut? cmdMarker text with
  | none => test.add (registry.featureOf .input [text])
  | some (cmd, input) =>
    (test.add (registry.featureOf .cmd [dropNewline cmd])).add (registry.featureOf .input [input])

/-- The test of one section, at a place counted from zero. -/
def readSection (registry : Registry) (expectFilled : Bool) (index : Nat) (text : Text) :
    Except ParseError Test :=
  let test := Test.empty (Test.titleAt index)
  -- Without an expected output being asked for, its marker is plain input.
  if expectFilled then
    match Text.cut? outputMarker text with
    | none => .error (.missingOutput (index + 1))
    | some (front, output) =>
      .ok ((withInput registry test front).add (registry.featureOf .output [output]))
  else .ok (withInput registry test text)

/-- The tests of sections, the first of them at the given place. -/
def readSections (registry : Registry) (expectFilled : Bool) :
    Nat → List Text → Except ParseError (List Test)
  | _, [] => .ok []
  | index, text :: rest => do
    let test ← readSection registry expectFilled index text
    let tests ← readSections registry expectFilled (index + 1) rest
    return test :: tests

/-- The sections of a text; what stands before the first marker belongs to none. -/
def ofText (text : Text) : List Text := (Text.splitAtEach inputMarker text).drop 1

/-- The tests of a text in the older format. -/
def read (registry : Registry) (expectFilled : Bool) (text : Text) :
    Except ParseError (List Test) :=
  readSections registry expectFilled 0 (ofText text)

end Sections

end TaggedTests
