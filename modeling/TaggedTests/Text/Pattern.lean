import TaggedTests.Text.Basic

/-! Patterns for whole texts, with wildcards for one character or for many. -/

namespace TaggedTests

/-- An element of a pattern. -/
inductive PatternItem where
  | char (c : Char)
  /-- Any one character. -/
  | one
  /-- Any characters. -/
  | many
  /-- A character of one of some ranges, or of none of them. -/
  | range (negated : Bool) (ranges : List (Char × Char))
  deriving DecidableEq, Repr

/-- A pattern as the sequence of its elements. -/
abbrev Pattern := List PatternItem

namespace Pattern

/-- A text and everything that is left of it as characters are dropped from its front. -/
def suffixes : Text → List Text
  | [] => [[]]
  | c :: rest => (c :: rest) :: suffixes rest

/-- Does a pattern fit a whole text? -/
def fits : Pattern → Text → Bool
  | [], text => text.isEmpty
  | .many :: rest, text => (suffixes text).any (fits rest)
  | .char c :: rest, d :: text => c = d && fits rest text
  | .one :: rest, _ :: text => fits rest text
  | .range negated ranges :: rest, c :: text =>
    (ranges.any fun range => range.1 ≤ c && c ≤ range.2) != negated && fits rest text
  | _ :: _, [] => false

/-- The text that a pattern without wildcards stands for. -/
def literal? : Pattern → Option Text
  | [] => some []
  | .char c :: rest => (literal? rest).map (c :: ·)
  | _ :: _ => none

end Pattern

end TaggedTests
