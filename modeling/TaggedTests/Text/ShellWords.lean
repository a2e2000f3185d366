import TaggedTests.Text.Basic

/-! Words of a command line: blanks separate them, quotes and backslashes protect, `#` opens a
comment. -/

namespace TaggedTests

/-- Where a reader of words stands. -/
inductive WordState where
  /-- Between words. -/
  | outside
  | comment
  | bare (word : Text)
  /-- Behind a backslash outside quotes. -/
  | escaped (word : Text)
  | single (word : Text)
  | double (word : Text)
  /-- Behind a backslash in double quotes. -/
  | doubleEscaped (word : Text)
  deriving DecidableEq, Repr

namespace WordState

/-- Is the character one that separates words? -/
def separates (c : Char) : Bool := c = ' ' || c = '\t' || c = '\n'

/-- Takes a character of a word outside quotes. -/
def inWord (word : Text) (c : Char) : WordState :=
  if c = '\'' then single word
  else if c = '"' then double word
  else if c = '\\' then escaped word
  else bare (word ++ [c])

/-- Takes a character behind a backslash in double quotes, which protects only some characters. -/
def inDoubleEscape (word : Text) (c : Char) : WordState :=
  if c = '\n' then double word
  else if c = '$' ∨ c = '\x60' ∨ c = '"' ∨ c = '\\' then double (word ++ [c])
  else double (word ++ ['\\', c])

/-- Takes one character, giving also a word that it completes. -/
def step (state : WordState) (c : Char) : WordState × Option Text :=
  match state with
  | outside =>
    (if separates c then outside else if c = '#' then comment else inWord [] c, none)
  | comment => (if c = '\n' then outside else comment, none)
  | bare word => if separates c then (outside, some word) else (inWord word c, none)
  | escaped word => (bare (if c = '\n' then word else word ++ [c]), none)
  | single word => (if c = '\'' then bare word else single (word ++ [c]), none)
  | double word =>
    (if c = '"' then bare word else if c = '\\' then doubleEscaped word else double (word ++ [c]),
      none)
  | doubleEscaped word => (inDoubleEscape word c, none)

/-- The words that end the text, or `none` inside quotes and behind a backslash. -/
def finish? : WordState → Option (List Text)
  | outside | comment => some []
  | bare word => some [word]
  | escaped _ | single _ | double _ | doubleEscaped _ => none

/-- Reads the words of the rest of a text. -/
def words? (state : WordState) : Text → Option (List Text)
  | [] => state.finish?
  | c :: rest =>
    -- A text that ends inside quotes has no words at all.
    let (next, word) := state.step c
    (next.words? rest).map fun words => word.toList ++ words

end WordState

/-- The words of a command line, or `none` if a quote stays open or a backslash ends it. -/
def Text.shellWords? (text : Text) : Option (List Text) := WordState.outside.words? text

end TaggedTests
