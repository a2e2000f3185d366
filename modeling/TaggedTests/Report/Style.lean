import TaggedTests.Text.Utf8

/-! Text with roles, shown plainly or with escape sequences for a terminal. -/

namespace TaggedTests

/-- What a piece of a report is there for. -/
inductive Role where
  | info
  | warn
  | error
  | hint
  /-- Expected text that the output lacks. -/
  | expected
  /-- Text of the output that was not expected. -/
  | actual
  deriving DecidableEq, Repr

/-- How roles are shown. -/
inductive Palette where
  | plain
  | color
  deriving DecidableEq, Repr

namespace Role

/-- Every role, in order of declaration. -/
def all : List Role := [info, warn, error, hint, expected, actual]

/-- The escape sequences that turn a colored role on. -/
def escapes : Role → Text
  | info => "\x1b[32m".toList
  | warn => "\x1b[33m".toList
  | error => "\x1b[31m".toList
  | hint => "\x1b[2m".toList
  | expected => "\x1b[4m\x1b[32m".toList
  | actual => "\x1b[4m\x1b[31m".toList

/-- The escape sequence that turns every role off. -/
def reset : Text := "\x1b[0m".toList

end Role

/-- A piece of a report; text without a role is shown as it is. -/
structure Span where
  role : Option Role
  text : Text
  deriving DecidableEq, Repr

/-- A report as a sequence of pieces. -/
abbrev Styled := List Span

namespace Span

/-- A piece without a role. -/
def bare (text : Text) : Span := ⟨none, text⟩

/-- A line end. -/
def newline : Span := bare ['\n']

/-- A piece with a role. -/
def of (role : Role) (text : Text) : Span := ⟨some role, text⟩

/-- A piece as shown. -/
def render (palette : Palette) (span : Span) : Text :=
  match palette, span.role with
  | .color, some role => role.escapes ++ span.text ++ Role.reset
  | _, _ => span.text

/-- A piece filled up on the left to a width; the blanks get its role too. -/
def padLeft (width : Nat) (span : Span) : Span := { span with text := Text.padLeft width span.text }

end Span

/-- A report as shown. -/
def Styled.render (palette : Palette) (styled : Styled) : Text :=
  styled.flatMap (Span.render palette)

end TaggedTests
