import TaggedTests.Text.Basic

/-! Why a test fails. -/

namespace TaggedTests

/-- The reason for which a test failed. -/
inductive Failure where
  /-- A line of the preparation failed, so the program was not run. -/
  | startup (line : Text)
  /-- A line of the cleanup failed. -/
  | cleanup (line : Text)
  | timeout
  /-- The program could not be started. -/
  | spawn (message : Text)
  /-- The output is not the expected one. -/
  | mismatch
  deriving DecidableEq, Repr

namespace Failure

/-- The wording of a failure. -/
def message : Failure → Text
  | startup line => "environment preparation failed at \x60".toList ++ line ++ ['\x60']
  | cleanup line => "environment cleanup failed at \x60".toList ++ line ++ ['\x60']
  | timeout => "time limit exceeded".toList
  | spawn _ => "program could not be run".toList
  | mismatch => "wrong output".toList

/--
What stands in place of the program's output after a failure.

A mismatch leaves the output as it is.
-/
def notice? : Failure → Option Text
  | startup line =>
    some
      ("The program was not executed due to errors during environment preparation stage.".toList ++
        " Failed to execute: ".toList ++ line)
  | cleanup line =>
    some ("Errors occurred during environment cleanup stage. Failed to execute: ".toList ++ line)
  | timeout => some "Time limit exceeded".toList
  | spawn message => some message
  | mismatch => none

end Failure

/-- How a test ended. -/
inductive Outcome where
  | passed
  | failed (failure : Failure)
  deriving DecidableEq, Repr

end TaggedTests
