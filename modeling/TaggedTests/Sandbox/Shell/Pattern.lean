import TaggedTests.Text.Pattern

/-! The patterns of a shell, in which quotes protect `*`, `?` and bracketed sets of characters. -/

namespace TaggedTests

namespace Shell

/-- A character of a word with whether quotes protect it. -/
structure Mark where
  char : Char
  quoted : Bool
  deriving DecidableEq, Repr

/-- Does a mark close a set that has ranges? -/
def closesSet (ranges : List (Char × Char)) (mark : Mark) : Bool :=
  mark.char = ']' && !mark.quoted && !ranges.isEmpty

/-- The ranges of a set up to its closing bracket, and the rest of the pattern. -/
def setRanges : List (Char × Char) → List Mark → Option (List (Char × Char) × List Mark)
  | _, [] => none
  | ranges, first :: dash :: last :: rest =>
    if closesSet ranges first then some (ranges, dash :: last :: rest)
    else if dash.char = '-' ∧ !dash.quoted ∧ last.char ≠ ']' then
      setRanges (ranges ++ [(first.char, last.char)]) rest
    else setRanges (ranges ++ [(first.char, first.char)]) (dash :: last :: rest)
  | ranges, first :: rest =>
    if closesSet ranges first then some (ranges, rest)
    else setRanges (ranges ++ [(first.char, first.char)]) rest

/-- Reads a set from behind its opening bracket. -/
def setItem? (marks : List Mark) : Option (PatternItem × List Mark) :=
  match marks with
  | first :: rest =>
    if (first.char = '!' ∨ first.char = '^') ∧ !first.quoted then
      (setRanges [] rest).map fun (ranges, more) => (.range true ranges, more)
    else (setRanges [] marks).map fun (ranges, more) => (.range false ranges, more)
  | [] => none

/-- The pattern that a word stands for, read with a number of steps at most. -/
def patternOf : Nat → List Mark → Pattern
  | 0, _ => []
  | _, [] => []
  | fuel + 1, mark :: rest =>
    if mark.quoted then .char mark.char :: patternOf fuel rest
    else
      match mark.char with
      | '*' => .many :: patternOf fuel rest
      | '?' => .one :: patternOf fuel rest
      | '[' =>
        match setItem? rest with
        | some (item, more) => item :: patternOf fuel more
        | none => .char '[' :: patternOf fuel rest
      | c => .char c :: patternOf fuel rest

/-- The pattern that a word stands for. -/
def pattern (marks : List Mark) : Pattern := patternOf (marks.length + 1) marks

/-- Is there something in a word that makes it a pattern? -/
def isPattern (marks : List Mark) : Bool :=
  marks.any fun mark => !mark.quoted && (mark.char = '*' || mark.char = '?' || mark.char = '[')

end Shell

end TaggedTests
