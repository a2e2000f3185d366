import TaggedTests.Build
import TaggedTests.Registry.Settings

/-! What can keep the tests of a file from being run or saved. -/

namespace TaggedTests

/-- Why a run ends before its verdict. -/
inductive Obstacle where
  | unreadable (path reason : Text)
  | settings (error : SettingsError)
  | parse (error : ParseError)
  /-- No directory for intermediate files can be made. -/
  | directory (reason : Text)
  | build (error : BuildError)
  | limit (error : FormatError)
  | unwritable (path reason : Text)
  deriving DecidableEq, Repr

namespace Obstacle

/-- The wording of an obstacle. -/
def message : Obstacle → Text
  | unreadable path reason => "Failed to read ".toList ++ path ++ ": ".toList ++ reason
  | settings error => error.message
  | parse error => error.message
  | directory reason => reason
  | build error => error.message
  | limit error => error.message
  | unwritable path reason => "Failed to write ".toList ++ path ++ ": ".toList ++ reason

end Obstacle

end TaggedTests
