import TaggedTests.Path
import TaggedTests.Text.Integer
import TaggedTests.Text.Pattern

/-!
Patterns for paths: `*`, `?` and bracketed sets in names, and `**` for directories at any depth.
-/

namespace TaggedTests

/-- What is wrong with a pattern. -/
inductive GlobError where
  /-- More than two stars in a row. -/
  | tooManyStars (position : Nat)
  /-- Two stars beside something else than slashes. -/
  | notAlone (position : Nat)
  /-- A bracket that opens no set. -/
  | badSet (position : Nat)
  deriving DecidableEq, Repr

namespace GlobError

/-- The place of an error in the pattern. -/
def position : GlobError → Nat
  | tooManyStars position | notAlone position | badSet position => position

/-- What is wrong at that place. -/
def reason : GlobError → Text
  | tooManyStars _ => "wildcards are either regular \x60*\x60 or recursive \x60**\x60".toList
  | notAlone _ => "recursive wildcards must form a single path component".toList
  | badSet _ => "invalid range pattern".toList

/-- The wording of an error. -/
def message (error : GlobError) : Text :=
  "Pattern syntax error near position ".toList ++ Text.ofNat error.position ++ ": ".toList ++
    error.reason

end GlobError

namespace Glob

/-- The ranges of characters that a set lists. -/
def setRanges : Text → List (Char × Char)
  | first :: '-' :: last :: rest => (first, last) :: setRanges rest
  | c :: rest => (c, c) :: setRanges rest
  | [] => []

/-- The set behind an opening bracket, and the number of characters that it takes. -/
def set? : Text → Option (PatternItem × Nat)
  | '!' :: first :: rest => closed true first rest 3
  | '!' :: [] => none
  | first :: rest => closed false first rest 2
  | [] => none
where
  /-- A set up to the bracket that closes it; the first character may be a bracket itself. -/
  closed (negated : Bool) (first : Char) (rest : Text) (taken : Nat) : Option (PatternItem × Nat) :=
    let inner := rest.takeWhile (· ≠ ']')
    if inner.length < rest.length then
      some (.range negated (setRanges (first :: inner)), inner.length + taken)
    else none

/-- Is there a slash or nothing before or behind something? -/
def isBorder (c : Option Char) : Bool := c.all (· = '/')

/-- What is wrong with stars at a position between two characters. -/
def starError? (count position : Nat) (before after : Option Char) : Option GlobError :=
  if 2 < count then some (.tooManyStars (position + 2))
  else if count = 2 ∧ !isBorder before then some (.notAlone (position - 1))
  else if count = 2 ∧ !isBorder after then some (.notAlone (position + 2))
  else none

/--
Reads the elements of a pattern from a position on, given the character before it.

The first argument counts characters that are part of an element which was read before.
-/
def readFrom : Nat → Nat → Option Char → Text → Except GlobError Pattern
  | _, _, _, [] => .ok []
  | skipped + 1, position, _, c :: rest => readFrom skipped (position + 1) (some c) rest
  | 0, position, before, c :: rest =>
    match c with
    | '?' => return .one :: (← readFrom 0 (position + 1) (some c) rest)
    | '*' =>
      -- A run of stars counts as one element.
      let more := (rest.takeWhile (· = '*')).length
      match starError? (more + 1) position before (rest.drop more).head? with
      | some error => .error error
      | none => return .many :: (← readFrom more (position + 1) (some c) rest)
    | '[' =>
      match set? rest with
      | some (item, length) => return item :: (← readFrom length (position + 1) (some c) rest)
      | none => .error (.badSet position)
    | c => return .char c :: (← readFrom 0 (position + 1) (some c) rest)

/-- Reads a pattern. -/
def read (text : Text) : Except GlobError Pattern := readFrom 0 0 none text

/-- What a component of a pattern asks for. -/
inductive Part where
  /-- Directories at any depth. -/
  | anyDepth
  | name (pattern : Pattern)
  deriving DecidableEq, Repr

/-- Reads a component. -/
def readPart (text : Text) : Except GlobError Part :=
  if text = ['*', '*'] then .ok .anyDepth else (read text).map .name

/-- Components of a pattern without the nothing behind a last slash. -/
def components (text : Text) : List Text :=
  let pieces := text.splitOn '/'
  if pieces.getLast? = some [] then pieces.dropLast else pieces

end Glob

end TaggedTests
