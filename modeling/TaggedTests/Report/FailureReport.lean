import TaggedTests.Report.Difference
import TaggedTests.Suite.Run

/-! Reports of failed tests: what a test ran with, what it printed, and how that differs. -/

namespace TaggedTests

/-- What is told of a failed test. -/
structure FailureReport where
  title : Text
  failure : Failure
  comment : Option Text
  /-- Labelled features in the order in which features are written. -/
  sections : List (Text × Text)
  /-- The expected output, where the failure is that it was not met. -/
  expected : Option Text
  actual : Text
  deriving DecidableEq, Repr

namespace FailureReport

/-- The name of the expected output in a difference. -/
def expectedName : Text := "EXPECTED OUTPUT".toList

/-- The name of the actual output. -/
def actualName : Text := "PROGRAM OUTPUT".toList

/-- The section of a tag; only an expected output is shown when it is empty. -/
def section? (registry : Registry) (test : Test) (tag : Tag) : Option (Text × Text) :=
  -- A tag without a label is never shown.
  match (registry.spec tag).label, test.features.get? tag with
  | some label, some feature =>
    if tag = .output ∨ !feature.isEmpty then some (label, feature.merged) else none
  | _, _ => none

/-- The report of a failed test. -/
def ofTest (registry : Registry) (test : Test) (failure : Failure) : FailureReport where
  title := test.title
  failure := failure
  comment := (test.features.merged? .comment).filter (· ≠ [])
  sections := (registry.ordered .perTest).filterMap (section? registry test)
  expected := if failure = .mismatch then some (test.merged .output) else none
  actual := test.captured.getD []

/-- The rule above and below a report. -/
def rule : Styled := [.of .hint (List.replicate 30 '-'), .newline]

/-- A text under a heading. -/
def headed (heading text : Text) : Styled :=
  [.of .info (heading ++ [':']), .newline, .bare text, .newline]

/-- The report as shown, given how the lines of a difference are found. -/
def shown (lines : Text → Text → List DiffLine) (report : FailureReport) : Styled :=
  rule ++
    [.bare (report.title ++ ": ".toList), .of .error report.failure.message, .newline] ++
    (report.comment.elim [] fun comment => [.bare comment, .newline]) ++
    report.sections.flatMap (fun (label, text) => .newline :: headed label text) ++
    .newline :: headed actualName report.actual ++
    (report.expected.elim [] fun expected =>
      Difference.shown (lines expected report.actual) expectedName actualName) ++
    rule

/-- The report as shown. -/
def styled (report : FailureReport) : Styled := report.shown Difference.lines

end FailureReport

/-- Reports of the first failures of a run, a number of them at most. -/
def Run.reports (run : Run) (suite : Suite) (count : Nat) : List FailureReport :=
  (run.failures.take count).filterMap fun (place, failure) =>
    suite.tests[place]?.map fun test => .ofTest suite.registry test failure

end TaggedTests
