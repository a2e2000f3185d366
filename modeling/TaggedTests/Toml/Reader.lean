import TaggedTests.Toml.Document
import TaggedTests.Toml.Value

/-! Reading TOML documents. -/

namespace TaggedTests

namespace Toml

/-- Reads a line that gives a value to a key. -/
def assignmentLine (document : Document) : Reader Document :=
  Reader.checked do
    let keys ← dottedKey
    let value ← Reader.required do
      equals
      spaces
      let value ← value
      restOfLine
      return value
    return match keys.getLast? with
      | none => .ok document
      | some last => document.assign keys.dropLast last value

/-- Reads the path of a header between brackets, giving its extent. -/
def header (opening closing : Text) (expected : Expected) : Reader (List Key × Extent) :=
  Reader.located do
    Reader.exactly opening
    let path ← dottedKey.required
    (Reader.exactly closing).required.expecting [.char '.', expected]
    return fun extent => (path, extent)

/-- Reads the line of the header of a table. -/
def tableLine (document : Document) : Reader Document :=
  Reader.checked do
    let (path, extent) ← header ['['] [']'] (.char ']')
    restOfLine.required
    return document.openTable path extent

/-- Reads the line of the header of one of several tables. -/
def repeatedLine (document : Document) : Reader Document :=
  Reader.checked do
    let (path, extent) ← header ['[', '['] [']', ']'] .doubleBracket
    restOfLine.required
    return document.openRepeated path extent

/-- Reads the line of a header. -/
def headerLine (document : Document) : Reader Document :=
  Reader.inside .tableHeader fun text =>
    match text with
    | '[' :: '[' :: _ => repeatedLine document text
    | _ :: _ :: _ => tableLine document text
    | _ => Reader.nothing text

/-- Reads the line of a comment. -/
def commentLine : Reader Unit := do
  comment
  lineEnd

/-- Reads a line, giving the document with it. -/
def line (document : Document) : Reader Document := do
  let next ← fun text =>
    match text with
    | [] => Reader.nothing text
    | '#' :: _ => (do commentLine.required; return document : Reader Document) text
    | '[' :: _ => (headerLine document).required text
    | '\n' :: _ | '\r' :: _ => (do newline; return document : Reader Document) text
    | _ => (assignmentLine document).required text
  spaces
  return next

/-- Reads the lines of a document. -/
def lines : Reader Document := do
  spaces
  let document ← Reader.fold line Document.empty
  Reader.finish
  return document

/-- The text without a byte order mark in front. -/
def dropByteOrderMark : Text → Text
  | '\uFEFF' :: rest => rest
  | text => text

/-- Reads a document. -/
def read (raw : Text) : Except Trouble TomlEntries :=
  match lines (dropByteOrderMark raw) with
  | .found document rest =>
    document.close.mapError fun fault => ⟨rest, 0, none, [], some fault⟩
  | .missing trouble | .wrong trouble => .error trouble

end Toml

end TaggedTests
