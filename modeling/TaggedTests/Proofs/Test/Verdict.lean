import TaggedTests.Proofs.Test.Made
import TaggedTests.Test.Run

/-! How a test is judged after an attempt, and what a run leaves as it was. -/

namespace TaggedTests

namespace Attempt

variable {output : Text}

/-- An execution comes to an output when it ended in time. -/
theorem ofExecution_eq_ok_iff {execution : Except Text Execution} :
    ofExecution execution = .ok output ↔ execution = .ok (.completed output) := by
  rcases execution with message | (printed | _) <;> simp [ofExecution]

/-- An attempt has an output after its cleanup when it had it before and the cleanup succeeded. -/
theorem afterCleanup_eq_ok_iff {attempt : Attempt} {failing : Option Text} :
    attempt.afterCleanup failing = .ok output ↔ attempt = .ok output ∧ failing = none := by
  cases attempt <;> cases failing <;> simp [afterCleanup]

end Attempt

namespace Test

variable {σ : Type} {registry : Registry} {test : Test} {attempt : Attempt} {output : Text}

/-- Does what is expected of a test accept an output? Without an expected output, only an empty one
is accepted. -/
def expects (test : Test) (output : Text) : Bool :=
  (test.features.get? .output).elim output.isEmpty (·.accepts output)

/-- What was printed last is judged by what is expected. -/
theorem validate_recordRun (test : Test) (output : Text) (failed : Bool) :
    (test.recordRun output failed).validate = test.expects output := by
  cases expected : test.features.get? .output <;> simp [recordRun, validate, expects, expected]

/-- A filled test passes with an output that it expects, and any other with any output. -/
theorem settle_ok (test : Test) (output : Text) :
    test.settle (.ok output) =
      if test.filled && !test.expects output then (.failed .mismatch, test.recordRun output true)
      else (.passed, test.recordRun output false) := by
  -- The record is judged, in which the new output stands beside the old mark.
  have judged := validate_recordRun test output false
  have mark : (test.recordRun output false).filled = test.filled := rfl
  simp only [settle, judged, mark]
  rfl

/-- A test passes with an output that was looked at and that it does not reject. -/
theorem settle_eq_passed_iff {after : Test} :
    test.settle attempt = (.passed, after) ↔ ∃ output, attempt = .ok output ∧
      after = test.recordRun output false ∧
        (test.filled = false ∨ test.expects output = true) := by
  rcases attempt with failure | output
  · simp [settle]
  · rw [settle_ok]
    constructor
    · -- An output passes if it is not compared or if it is expected.
      intro passed
      split at passed
      · cases passed
      · next fits =>
        cases passed
        exact ⟨output, rfl, rfl, by simpa [imp_iff_not_or] using fits⟩
    · rintro ⟨_, ⟨⟩, rfl, fits⟩
      rw [if_neg (by simpa [imp_iff_not_or] using fits)]

/-- Judging a test records what was printed and whether the test failed, and nothing else. -/
theorem exists_recordRun_settle (test : Test) (attempt : Attempt) :
    ∃ output failed, (test.settle attempt).2 = test.recordRun output failed := by
  -- A failure records its notice, and an output records itself, whatever the verdict.
  rcases attempt with failure | output
  · exact ⟨_, true, rfl⟩
  · rw [settle_ok]
    split
    · exact ⟨output, true, rfl⟩
    · exact ⟨output, false, rfl⟩

/-- Judging a test leaves its title alone. -/
@[simp] theorem title_settle (test : Test) (attempt : Attempt) :
    (test.settle attempt).2.title = test.title := by
  obtain ⟨output, failed, same⟩ := test.exists_recordRun_settle attempt
  -- Judging an attempt is recording a run.
  rw [same]
  rfl

/-- Judging a test leaves its features alone. -/
@[simp] theorem features_settle (test : Test) (attempt : Attempt) :
    (test.settle attempt).2.features = test.features := by
  obtain ⟨output, failed, same⟩ := test.exists_recordRun_settle attempt
  -- Judging an attempt is recording a run.
  rw [same]
  rfl

/-- Judging a test does not fill it. -/
@[simp] theorem filled_settle (test : Test) (attempt : Attempt) :
    (test.settle attempt).2.filled = test.filled := by
  obtain ⟨output, failed, same⟩ := test.exists_recordRun_settle attempt
  -- Judging an attempt is recording a run.
  rw [same]
  rfl

/-- A test that was made from a registry and then judged could have been made so. -/
theorem Made.settle (made : test.Made registry) (attempt : Attempt) :
    (test.settle attempt).2.Made registry := by
  obtain ⟨output, failed, same⟩ := test.exists_recordRun_settle attempt
  -- Judging an attempt is recording a run.
  rw [same]
  exact made.recordRun output failed

/-- A run attempts the test and judges the attempt. -/
theorem run_eq (host : Host σ) (test : Test) (invocation : Invocation) (limit : Duration)
    (state : σ) :
    test.run host invocation limit state =
      (test.settle (test.attempt host invocation limit state).1,
        (test.attempt host invocation limit state).2) := rfl

/-- Only the output of a program that ended in time comes out of an attempt. -/
theorem exists_execute_of_attempt {host : Host σ} {invocation : Invocation} {limit : Duration}
    {state : σ} (succeeded : (test.attempt host invocation limit state).1 = .ok output) :
    ∃ prepared, (host.execute invocation test.args test.stdin limit prepared).1 =
      .ok (.completed output) := by
  -- The preparation has not failed, so that the program was run in the state that it left.
  rcases found : host.firstFailing test.startup state with ⟨_ | line, prepared⟩
  · refine ⟨prepared, ?_⟩
    simp only [attempt, found, Attempt.afterCleanup_eq_ok_iff] at succeeded
    exact Attempt.ofExecution_eq_ok_iff.1 succeeded.1
  · simp [attempt, found] at succeeded

end Test

end TaggedTests
