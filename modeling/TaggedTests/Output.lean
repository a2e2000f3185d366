import TaggedTests.Report.Style
import TaggedTests.Terminal

/-! What programs put out where there is no terminal. -/

namespace TaggedTests

/-- A part of what is put out. -/
inductive Output where
  /-- A text that is written at once. -/
  | text (text : Text)
  /-- What another program has put out itself. -/
  | foreign (bytes : Bytes)
  deriving DecidableEq, Repr

namespace Output

/-- A line: its text, and the line end on its own. -/
def line (text : Text) : List Output := [.text text, .text ['\n']]

/-- A line in a role. -/
def styledLine (role : Role) (text : Text) : List Output :=
  line ((Span.of role text).render .color)

end Output

/-- What is put out through one stream; an escape sequence may go on from one text to the next. -/
abbrev OutputStream := List Output

namespace OutputStream

/-- The bytes of a stream from some state on. -/
def bytesFrom : Terminal.State → OutputStream → Bytes
  | _, [] => []
  | state, .text text :: rest =>
    let (shown, onward) := Terminal.strip state.resume text
    Text.utf8 shown ++ bytesFrom onward rest
  | state, .foreign bytes :: rest => bytes ++ bytesFrom state rest

/-- The bytes of a stream. -/
def bytes (stream : OutputStream) : Bytes := bytesFrom .start stream

/-- Everything that streams put out one after the other, as text. -/
def shown (streams : List OutputStream) : Text := Text.ofUtf8Lossy (streams.flatMap bytes)

end OutputStream

end TaggedTests
