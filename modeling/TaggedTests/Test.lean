import TaggedTests.Features
import TaggedTests.Registry
import TaggedTests.Text.Lines

/-! A single test: its features and the state of its last run. -/

namespace TaggedTests

/-- A test with what is known of its last run. -/
structure Test where
  title : Text
  features : Features
  /-- What the last run printed. -/
  captured : Option Text
  /-- Is an expected output known? -/
  filled : Bool
  lastRunFailed : Option Bool
  deriving DecidableEq, Repr

namespace Test

/-- A test without features that has not been run. -/
def empty (title : Text) : Test := ⟨title, .empty, none, false, none⟩

/-- The title of the test at a place counted from zero. -/
def titleAt (index : Nat) : Text := "Test ".toList ++ Text.ofNat (index + 1)

/-- Merges a feature into the test; an expected output marks it filled. -/
def add (test : Test) (feature : Feature) : Test :=
  { test with
    features := test.features.add feature
    filled := test.filled || decide (feature.tag = .output) }

@[simp] theorem features_add (test : Test) (feature : Feature) :
    (test.add feature).features = test.features.add feature := rfl

/-- The joined text of a tag, empty when it is absent. -/
def merged (test : Test) (tag : Tag) : Text := (test.features.merged? tag).getD []

/-- Records what a run printed and whether it failed. -/
def recordRun (test : Test) (output : Text) (failed : Bool) : Test :=
  { test with captured := some output, lastRunFailed := some failed }

/-- Overrides the verdict of the last run. -/
def setLastRunFailed (test : Test) (failed : Bool) : Test :=
  { test with lastRunFailed := some failed }

/-- Adopts what the last run printed as the expected output. -/
def fill (test : Test) (registry : Registry) : Test :=
  { test with
    filled := true
    features := test.features.replace (registry.featureOf .output [test.captured.getD []]) }

/-- Arguments for the program: the pieces between blanks that are not empty. -/
def args (test : Test) : List Text := ((test.merged .cmd).splitOn ' ').filter (· ≠ [])

/-- What the program reads. -/
def stdin (test : Test) : Text := test.merged .input

/-- Shell lines to run before the program. -/
def startup (test : Test) : List Text := Text.filledLines (test.merged .startup)

/-- Shell lines to run after the program. -/
def cleanup (test : Test) : List Text := Text.filledLines (test.merged .cleanup)

/-- Do two tests say the same in their features? -/
def contentEq (test other : Test) : Bool := test.features.contentEq other.features

end Test

end TaggedTests
