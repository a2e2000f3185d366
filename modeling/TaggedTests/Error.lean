import TaggedTests.Duration.Seconds
import TaggedTests.Duration.Spans

/-! What can be wrong with a test file or with its configuration, and how that is worded. -/

namespace TaggedTests

/-- A test file that cannot be read. -/
inductive ParseError where
  /-- Unequal numbers of opening and closing brackets. -/
  | unmatchedBrackets (opening closing : Nat)
  /-- A section of the older format, counted from one, that has no expected output. -/
  | missingOutput (index : Nat)
  deriving DecidableEq, Repr

/-- The wording of a parse error. -/
def ParseError.message : ParseError → Text
  | unmatchedBrackets opening closing =>
    "Wrong format! Unmatched number of /\x7b and \x7d/ brackets (".toList ++ Text.ofNat opening ++
      " opening, ".toList ++ Text.ofNat closing ++ " closing).".toList
  | missingOutput index =>
    "Wrong format! Section ".toList ++ Text.ofNat index ++ " is missing [OUTPUT]".toList

/-- A configuration that cannot be used. -/
inductive FormatError where
  /-- A keyword that names no tag. -/
  | unknownTag (keyword : Text)
  /-- No time limit is given and none is configured. -/
  | noTimeout
  /-- A number of seconds that is no time limit. -/
  | badSeconds (raw : Text) (error : Duration.SecondsError)
  /-- A time limit that is neither a number of seconds nor a sum of spans. -/
  | badSpans (raw : Text) (error : SpanError)
  deriving DecidableEq, Repr

/-- The wording of a format error. -/
def FormatError.message : FormatError → Text
  | unknownTag keyword => "Unknown tag \x60".toList ++ keyword ++ "\x60".toList
  | noTimeout => "No TIMEOUT given and no default configured".toList
  | badSeconds raw error => "Invalid TIMEOUT \x60".toList ++ raw ++ "\x60: ".toList ++ error.message
  | badSpans raw error =>
    "Invalid TIMEOUT \x60".toList ++ raw ++
      "\x60: expected seconds or a duration like \x601500ms\x60 (".toList ++ error.message ++ [')']

end TaggedTests
