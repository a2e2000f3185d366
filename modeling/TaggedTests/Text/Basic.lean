/-! Text as a list of characters: where a pattern occurs, and cutting, splitting and
replacing at it. -/

namespace TaggedTests

/-- Text as the list of its characters, so that a position is a count of characters. -/
abbrev Text := List Char

namespace Text

/-- What follows `pattern` in a text that starts with it. -/
def after? : Text → Text → Option Text
  | [], text => some text
  | _ :: _, [] => none
  | p :: ps, c :: cs => if p = c then after? ps cs else none

/-- A text has a rest after a pattern exactly when it is the pattern followed by that rest. -/
theorem after?_eq_some_iff {pattern text rest : Text} :
    after? pattern text = some rest ↔ text = pattern ++ rest := by
  -- The induction consumes pattern and text together.
  fun_induction after? pattern text with
  | case1 => simp [eq_comm]
  | case2 => simp
  | case3 p ps c ih => simp [ih]
  | case4 p ps c cs differ => simp [eq_comm, differ]

/-- The text before the first occurrence of a pattern, and the text after it. -/
def cut? (pattern : Text) : Text → Option (Text × Text)
  | [] => (after? pattern []).map fun rest => ([], rest)
  | c :: cs =>
    match after? pattern (c :: cs) with
    | some rest => some ([], rest)
    | none => (cut? pattern cs).map fun found => (c :: found.1, found.2)

/-- Cutting loses nothing: the two parts around the pattern make up the text. -/
theorem eq_of_cut? {pattern text before rest : Text}
    (found : cut? pattern text = some (before, rest)) : text = before ++ (pattern ++ rest) := by
  -- Either the pattern starts here, or the cut lies one character further on.
  induction text generalizing before with
  | nil =>
    simp only [cut?, Option.map_eq_some_iff, Prod.mk.injEq] at found
    obtain ⟨_, starts, rfl, rfl⟩ := found
    simpa using after?_eq_some_iff.1 starts
  | cons c cs ih =>
    simp only [cut?] at found
    split at found
    · next starts =>
      cases found
      simpa using after?_eq_some_iff.1 starts
    · obtain ⟨⟨front, back⟩, later, same⟩ := Option.map_eq_some_iff.1 found
      cases same
      simp [ih later]

/-- Does the pattern occur anywhere in the text? -/
def contains (pattern text : Text) : Bool := (cut? pattern text).isSome

/--
The pieces of a text between the occurrences of a pattern, found from left to right without overlap.

An empty pattern separates nothing.
-/
def splitAtEach (pattern text : Text) : List Text :=
  if _solid : pattern = [] then [text] else
    match _found : cut? pattern text with
    | none => [text]
    | some (before, rest) => before :: splitAtEach pattern rest
termination_by text.length
decreasing_by
  have whole := congrArg List.length (eq_of_cut? _found)
  have := List.length_pos_iff.2 _solid
  simp only [List.length_append] at whole
  omega

/-- The text with every occurrence of a pattern, found from left to right, put as `new`. -/
def replace (pattern new text : Text) : Text := new.intercalate (splitAtEach pattern text)

/-- Positions at which a pattern occurs, counted from `start` at the beginning of the text. -/
def positionsFrom (pattern : Text) (start : Nat) : Text → List Nat
  | [] => if pattern.isEmpty then [start] else []
  | c :: cs =>
    -- Occurrences may overlap, unlike the ones that a text is split at.
    let later := positionsFrom pattern (start + 1) cs
    if pattern.isPrefixOf (c :: cs) then start :: later else later

/-- All positions at which a pattern occurs, in increasing order. -/
def positions (pattern text : Text) : List Nat := positionsFrom pattern 0 text

/-- The characters from position `start` up to position `stop`; none when the range is inverted. -/
def slice (start stop : Nat) (text : Text) : Text := (text.drop start).take (stop - start)

/-- The text filled up with blanks on the left to a width in characters. -/
def padLeft (width : Nat) (text : Text) : Text :=
  List.replicate (width - text.length) ' ' ++ text

end Text

end TaggedTests
