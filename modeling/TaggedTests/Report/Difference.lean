import TaggedTests.Diff.Hunk
import TaggedTests.Report.Style
import TaggedTests.Text.Blank
import TaggedTests.Text.Integer
import TaggedTests.Text.Lines

/-!
The difference of two texts, line by line.

Every line of either text is shown once, with its number in the text or texts that hold it. Where
changed lines have enough words in common, the words that differ are emphasized.
-/

namespace TaggedTests

/-- Which of the two texts holds a line. -/
inductive Sign where
  | both
  | removed
  | added
  deriving DecidableEq, Repr

namespace Sign

/-- The mark in front of a line. -/
def mark : Sign → Text
  | both => ['|']
  | removed => ['-']
  | added => ['+']

/-- The role of a line. -/
def role : Sign → Role
  | both => .hint
  | removed => .info
  | added => .error

/-- The role of an emphasized part of a line. -/
def emphasis : Sign → Role
  | both => .hint
  | removed => .expected
  | added => .actual

end Sign

/-- A part of a line, emphasized or not. -/
structure Piece where
  emphasized : Bool
  text : Text
  deriving DecidableEq, Repr

/-- A line as a comparison finds it, with its places in the texts that hold it, counted from
zero. -/
structure Change where
  sign : Sign
  oldIndex : Option Nat
  newIndex : Option Nat
  pieces : List Piece
  deriving DecidableEq, Repr

/-- A line of a difference with its numbers, counted from one. -/
structure DiffLine where
  sign : Sign
  oldNumber : Option Nat
  newNumber : Option Nat
  pieces : List Piece
  deriving DecidableEq, Repr

/-- The line that is shown for a line that a comparison finds. -/
def DiffLine.ofChange (change : Change) : DiffLine where
  sign := change.sign
  oldNumber := change.oldIndex.map (· + 1)
  newNumber := change.newIndex.map (· + 1)
  pieces := change.pieces

namespace Words

/-- Cuts a line between blanks and other characters. -/
def ofLine (line : Text) : List Text := line.splitBy fun c d => Text.isBlank c == Text.isBlank d

/-- The words of lines, each with the place of its line. -/
def ofLines (lines : List Text) : List (Nat × Text) :=
  lines.zipIdx.flatMap fun (line, place) => (ofLine line).map fun word => (place, word)

/-- Is the character part of a line end? -/
def isLineEnd (c : Char) : Bool := c = '\n' || c = '\r'

/-- An emphasized part, in which line ends stay plain. -/
def emphasize (text : Text) : List Piece :=
  (text.splitBy fun c d => isLineEnd c == isLineEnd d).map fun run =>
    ⟨!run.any isLineEnd, run⟩

/-- The parts of lines made from words that were kept or changed together. -/
def piecesOf (emphasized : Bool) (words : List (Nat × Text)) : List (Nat × Piece) :=
  (words.splitBy fun first second => first.1 == second.1).flatMap fun group =>
    let place := (group.head?.map Prod.fst).getD 0
    let text := group.flatMap Prod.snd
    (if emphasized then emphasize text else [⟨false, text⟩]).map fun piece => (place, piece)

/-- Hands out words to runs of given lengths. -/
def deal : List (Bool × Nat) → List (Nat × Text) → List (Nat × Piece)
  | [], _ => []
  | (emphasized, count) :: rest, words =>
    piecesOf emphasized (words.take count) ++ deal rest (words.drop count)

/-- The parts of each line, given runs of its words. -/
def piecesByLine (lines : List Text) (runs : List (Bool × Nat)) : List (List Piece) :=
  let pieces := deal runs (ofLines lines)
  (List.range lines.length).map fun place =>
    (pieces.filter fun piece => piece.1 = place).map Prod.snd

/-- Runs of the old words: kept or deleted. -/
def oldRuns (hunks : List (Hunk Text)) : List (Bool × Nat) :=
  hunks.map fun
    | .keep items => (false, items.length)
    | .change old _ => (true, old.length)

/-- Runs of the new words: kept or inserted. -/
def newRuns (hunks : List (Hunk Text)) : List (Bool × Nat) :=
  hunks.map fun
    | .keep items => (false, items.length)
    | .change _ new => (true, new.length)

/-- Is twice a count at least half of a total? -/
def isCloseEnough (count total : Nat) : Bool := total ≤ 4 * count

end Words

namespace Difference

/-- A line without emphasis. -/
def plainLine (line : Text) : List Piece := [⟨false, line⟩]

/-- The parts of changed lines, plain unless the two sides are close in lines and in words. -/
def changedLines (old new : List Text) : List (List Piece) × List (List Piece) :=
  -- Lines that have little in common are not compared by their words.
  let plain := (old.map plainLine, new.map plainLine)
  if old.isEmpty ∨ new.isEmpty then plain
  else if !Words.isCloseEnough (min old.length new.length) (old.length + new.length) then plain
  else
    let oldWords := (Words.ofLines old).map Prod.snd
    let newWords := (Words.ofLines new).map Prod.snd
    let hunks := Hunk.between oldWords newWords
    let kept := hunks.foldr (fun hunk total => hunk.keptCount + total) 0
    if !Words.isCloseEnough kept (oldWords.length + newWords.length) then plain
    else
      (Words.piecesByLine old (Words.oldRuns hunks), Words.piecesByLine new (Words.newRuns hunks))

/-- The lines of a stretch with their places in the texts. -/
def changes (stretch : Placed Text) : List Change :=
  match stretch.hunk with
  | .keep lines =>
    lines.zipIdx.map fun (line, offset) =>
      ⟨.both, some (stretch.oldStart + offset), some (stretch.newStart + offset), plainLine line⟩
  | .change old new =>
    -- All lines that are removed come before those that are added.
    let (removed, added) := changedLines old new
    (removed.zipIdx.map fun (pieces, offset) =>
      ⟨.removed, some (stretch.oldStart + offset), none, pieces⟩) ++
    added.zipIdx.map fun (pieces, offset) =>
      ⟨.added, none, some (stretch.newStart + offset), pieces⟩

/-- The lines of the difference of two texts. -/
def lines (expected actual : Text) : List DiffLine :=
  let hunks := Hunk.between (Text.endedLines expected) (Text.endedLines actual)
  ((Hunk.placed 0 0 hunks).flatMap changes).map DiffLine.ofChange

end Difference

namespace DiffLine

/-- The text of a line. -/
def text (line : DiffLine) : Text := line.pieces.flatMap Piece.text

/-- Does a line have parts of which the last one ends without a line end? -/
def isUnterminated (line : DiffLine) : Bool :=
  match line.pieces.getLast? with
  | none => false
  | some piece => !((piece.text.getLast?.map Words.isLineEnd).getD false)

/-- A column with a line number, blank without one. -/
def column : Option Nat → Styled
  | some number => [(Span.of .hint (Text.ofNat number)).padLeft 4, .bare [' ']]
  | none => [.bare (List.replicate 5 ' ')]

/-- A line as shown; a text that ends without a line end gets a mark and one. -/
def styled (line : DiffLine) : Styled :=
  column line.oldNumber ++ column line.newNumber ++
    [.of line.sign.role line.sign.mark, .bare [' ']] ++
    line.pieces.map (fun piece =>
      .of (if piece.emphasized then line.sign.emphasis else line.sign.role) piece.text) ++
    if line.isUnterminated then [.of line.sign.emphasis ['∅'], .newline] else []

end DiffLine

namespace Difference

/-- The lines of a difference under the names of the texts. -/
def shown (lines : List DiffLine) (expectedName actualName : Text) : Styled :=
  [.newline, .of .info ("--- ".toList ++ expectedName), .newline,
    .of .error ("+++ ".toList ++ actualName), .newline] ++
    lines.flatMap DiffLine.styled

/-- The difference of two texts under their names. -/
def styled (expected actual expectedName actualName : Text) : Styled :=
  shown (lines expected actual) expectedName actualName

end Difference

end TaggedTests
