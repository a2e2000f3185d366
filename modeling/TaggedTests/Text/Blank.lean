import TaggedTests.Text.Basic

/-! White space by the Unicode property of that name, and the words between it. -/

namespace TaggedTests.Text

/-- Ranges of the characters that have the Unicode property White_Space. -/
def blankRanges : List (Nat × Nat) :=
  [(0x09, 0x0d), (0x20, 0x20), (0x85, 0x85), (0xa0, 0xa0), (0x1680, 0x1680), (0x2000, 0x200a),
   (0x2028, 0x2029), (0x202f, 0x202f), (0x205f, 0x205f), (0x3000, 0x3000)]

/-- Is the character white space? -/
def isBlank (c : Char) : Bool := blankRanges.any fun range => range.1 ≤ c.toNat ∧ c.toNat ≤ range.2

/-- The text without the white space at its two ends. -/
def trim (text : Text) : Text :=
  ((text.dropWhile isBlank).reverse.dropWhile isBlank).reverse

/-- The maximal parts of a text that hold no white space, in order. -/
def words (text : Text) : List Text := (text.splitOnP isBlank).filter (· ≠ [])

end TaggedTests.Text
