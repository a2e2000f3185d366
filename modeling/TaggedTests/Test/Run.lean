import TaggedTests.Failure
import TaggedTests.Host
import TaggedTests.Test.Matching

/-!
Running a test: preparation, program, cleanup.

The first failure decides. A failing preparation ends the run at once; the cleanup follows every
execution of the program, however that ended.
-/

namespace TaggedTests

/-- What a run printed, unless something failed before its output could be looked at. -/
abbrev Attempt := Except Failure Text

namespace Attempt

/-- What an execution of the program amounts to. -/
def ofExecution : Except Text Execution → Attempt
  | .ok (.completed output) => .ok output
  | .ok .timedOut => .error .timeout
  | .error message => .error (.spawn message)

/-- The attempt after its cleanup: a failing line is the failure of an attempt without one. -/
def afterCleanup (attempt : Attempt) (failing : Option Text) : Attempt :=
  match attempt, failing with
  | .ok _, some line => .error (.cleanup line)
  | attempt, _ => attempt

end Attempt

namespace Test

variable {σ : Type}

/-- Runs preparation, program and cleanup. -/
def attempt (host : Host σ) (test : Test) (invocation : Invocation) (limit : Duration)
    (state : σ) : Attempt × σ :=
  -- Neither program nor cleanup follows a preparation that failed.
  match host.firstFailing test.startup state with
  | (some line, prepared) => (.error (.startup line), prepared)
  | (none, prepared) =>
    let (execution, executed) := host.execute invocation test.args test.stdin limit prepared
    let (failing, cleaned) := host.firstFailing test.cleanup executed
    ((Attempt.ofExecution execution).afterCleanup failing, cleaned)

/-- Records an attempt and judges it: without a failure, a filled test has to print what it
expects. -/
def settle (test : Test) : Attempt → Outcome × Test
  | .error failure =>
    (.failed failure, test.recordRun (failure.notice?.getD []) true)
  | .ok output =>
    -- What is judged is the record, in which the new output already stands.
    let recorded := test.recordRun output false
    if recorded.filled && !recorded.validate then
      (.failed .mismatch, recorded.setLastRunFailed true)
    else (.passed, recorded)

/-- Runs the test once, recording on it what was printed and whether it failed. -/
def run (host : Host σ) (test : Test) (invocation : Invocation) (limit : Duration) (state : σ) :
    (Outcome × Test) × σ :=
  let (attempt, next) := test.attempt host invocation limit state
  (test.settle attempt, next)

/-- Runs the test a number of times in a row, giving outcome and test after each. -/
def runs (host : Host σ) (invocation : Invocation) (limit : Duration) :
    Nat → Test → σ → List ((Outcome × Test) × σ)
  | 0, _, _ => []
  | times + 1, test, state =>
    let ran := test.run host invocation limit state
    ran :: runs host invocation limit times ran.1.2 ran.2

end Test

end TaggedTests
