import TaggedTests.Text.Basic

/-! Lines of a text: one ending for all of them, and cutting a text at its line ends. -/

namespace TaggedTests.Text

/-- Every line end as a newline, whether it was written `\r\n`, a lone `\r` or `\n`. -/
def normalizeLines : Text → Text
  | [] => []
  | '\r' :: '\n' :: rest => '\n' :: normalizeLines rest
  | c :: rest => (if c = '\r' then '\n' else c) :: normalizeLines rest

/-- The parts of a text between newlines that are not empty. -/
def filledLines (text : Text) : List Text := (text.splitOn '\n').filter (· ≠ [])

/-- A line without the carriage return that stood before its newline. -/
def dropReturn (line : Text) : Text :=
  if line.getLast? = some '\r' then line.dropLast else line

/-- The lines of a text, each without its ending; nothing follows a last newline. -/
def lines (text : Text) : List Text :=
  -- The last piece follows the last newline and is a line only if it holds something.
  let pieces := text.splitOn '\n'
  let last := pieces.getLast?.getD []
  pieces.dropLast.map dropReturn ++ (if last = [] then [] else [last])

/--
The lines of a text, each with its ending.

A line ends at `\n`, at `\r\n` or at a lone `\r`; the last one may have no ending.
-/
def endedLines : Text → List Text
  | [] => []
  | '\r' :: '\n' :: rest => ['\r', '\n'] :: endedLines rest
  | c :: rest =>
    if c = '\n' ∨ c = '\r' then [c] :: endedLines rest else
      match endedLines rest with
      | [] => [[c]]
      | line :: more => (c :: line) :: more

/-- Cutting a text into lines loses nothing. -/
@[simp] theorem flatten_endedLines (text : Text) : (endedLines text).flatten = text := by
  -- Each character either ends a line or joins the line that follows it.
  fun_induction endedLines text <;> simp_all

end TaggedTests.Text
