import TaggedTests.Error
import TaggedTests.Test
import TaggedTests.Text.Blank

/-! A suite is everything that a test file says: file-wide features and tests. -/

namespace TaggedTests

/-- The syntax of a test file. -/
inductive Format where
  /-- Bracketed blocks. -/
  | bracketed
  /-- Sections between line markers, which came before brackets. -/
  | legacy
  deriving DecidableEq, Repr

/-- What is odd about a test file that can be read all the same. -/
inductive Warning where
  /-- A file without brackets was read in the older format. -/
  | oldFormat
  deriving DecidableEq, Repr

/-- The wording of a warning. -/
def Warning.message : Warning → Text
  | oldFormat => "Old format detected!".toList

/-- Everything read from one test file. -/
structure Suite where
  registry : Registry
  /-- Features shared by every test. -/
  globals : Features
  tests : List Test
  warnings : List Warning
  /-- The syntax that the file was read with. -/
  format : Format
  deriving DecidableEq, Repr

namespace Suite

/-- The joined text of a file-wide tag, or the one configured for its absence. -/
def globalOrFallback (suite : Suite) (tag : Tag) : Option Text :=
  suite.globals.merged? tag <|> (suite.registry.spec tag).fallback

/-- What the tests are about. -/
def description (suite : Suite) : Text := (suite.globalOrFallback .description).getD []

/-- Source text that takes the place of the program's own entry point. -/
def mainText (suite : Suite) : Option Text := suite.globals.merged? .main

/-- Does the file replace the program's entry point? -/
def hasMain (suite : Suite) : Bool := suite.globals.contains .main

/-- Flags for the compiler. -/
def flags (suite : Suite) : Option Text := suite.globals.merged? .flags

/-- How a compiler flag that asks for sanitizers begins. -/
def sanitizeFlag : Text := "-fsanitize=".toList

/-- Does a word of the flags ask for sanitizers? -/
def asksForSanitizers (word : Text) : Bool := sanitizeFlag.isPrefixOf word

/-- Names of the sanitizers that the flags ask for, in order. -/
def sanitizers (suite : Suite) : List Text :=
  (Text.words (suite.flags.getD [])).flatMap fun word =>
    match Text.after? sanitizeFlag word with
    | none => []
    | some names => (names.splitOn ',').filter (· ≠ [])

/-- Drops every word that asks for sanitizers from the flags. -/
def stripSanitizers (suite : Suite) : Suite :=
  match suite.flags with
  | none => suite
  | some flags =>
    let kept := (Text.words flags).filter fun word => !asksForSanitizers word
    { suite with
      globals := suite.globals.replace
        (suite.registry.featureOf .flags [[' '].intercalate kept]) }

/-- Reads a time limit: a number of seconds or, failing that, a sum of spans. -/
def readTimeout (raw : Text) : Except FormatError Duration :=
  match Duration.readNumber? raw with
  | some number => (Duration.ofSeconds number).mapError (.badSeconds raw)
  | none => (Duration.readSpans raw).mapError (.badSpans raw)

/-- The time limit of a single run. -/
def timeout (suite : Suite) : Except FormatError Duration :=
  match suite.globalOrFallback .timeout with
  | none => .error .noTimeout
  | some raw => readTimeout (Text.trim raw)

end Suite

end TaggedTests
