import TaggedTests.Host.Scripted
import TaggedTests.Proofs.Suite.Outcomes
import TaggedTests.Proofs.Test.FirstFailure

/-!
Tests that are run again and again.

A run reads nothing that an earlier one recorded, and overwrites all of it. So it makes no
difference whether a test is run anew or again, and every run is explained by its own answers.
-/

namespace TaggedTests

/-- Two tests that differ at most in what earlier runs recorded. -/
structure Test.Alike (first second : Test) : Prop where
  title : first.title = second.title
  features : first.features = second.features
  filled : first.filled = second.filled

/-- The first failure of a run, given the features of the test and whether an output is expected of
it. -/
def Trace.failure? (trace : Trace) (features : Features) (filled : Bool) : Option Failure :=
  (trace.failures { Test.empty [] with features := features, filled := filled }).head?

namespace Test

variable {σ : Type} {host : Host σ} {invocation : Invocation} {limit : Duration}
  {first second test : Test} {state : σ}

/-- Only the record of a test is left open by what it is alike to. -/
theorem Alike.exists_eq (alike : first.Alike second) :
    ∃ captured failed, second = { first with captured := captured, lastRunFailed := failed } := by
  -- Title, features and mark agree, and only the records are left.
  obtain ⟨title, features, captured, filled, failed⟩ := second
  obtain ⟨rfl, rfl, rfl⟩ := alike
  exact ⟨captured, failed, rfl⟩

/-- An attempt leaves the same of tests that differ in their records alone. -/
theorem Alike.settle_eq (alike : first.Alike second) (attempt : Attempt) :
    first.settle attempt = second.settle attempt := by
  obtain ⟨captured, failed, rfl⟩ := alike.exists_eq
  -- Both parts of the record are set before the output is judged.
  rcases attempt with failure | output
  · rfl
  · rw [settle_ok, settle_ok]
    rfl

/-- A run makes no difference between tests that differ in their records alone. -/
theorem Alike.run_eq (alike : first.Alike second) (host : Host σ) (invocation : Invocation)
    (limit : Duration) (state : σ) :
    first.run host invocation limit state = second.run host invocation limit state := by
  -- What the host is asked for comes from the features.
  have text : first.merged = second.merged := by
    unfold merged
    rw [alike.features]
  have attempted : first.attempt host invocation limit state =
      second.attempt host invocation limit state := by
    refine attempt_congr ?_ ?_ ?_ ?_ host invocation limit state
    · rw [startup, startup, text]
    · rw [args, args, text]
    · rw [stdin, stdin, text]
    · rw [cleanup, cleanup, text]
  rw [Test.run_eq, Test.run_eq, attempted, alike.settle_eq]

/-- A test is alike to what a run makes of it. -/
theorem alike_run (host : Host σ) (test : Test) (invocation : Invocation) (limit : Duration)
    (state : σ) : (test.run host invocation limit state).1.2.Alike test := by
  rw [run_eq]
  exact ⟨title_settle test _, features_settle test _, filled_settle test _⟩

/-- Repeated runs make no difference between tests that differ in their records alone. -/
theorem Alike.runs_eq (alike : first.Alike second) (times : Nat) (state : σ) :
    first.runs host invocation limit times state =
      second.runs host invocation limit times state := by
  -- From the first run on the tests are equal.
  cases times with
  | zero => rfl
  | succ times => rw [runs, runs, alike.run_eq]

/-- Each of the repeated runs is a run of the test as it was at first, in the state that the runs
before it left. -/
theorem getElem?_runs (host : Host σ) (test : Test) (invocation : Invocation) (limit : Duration)
    {place times : Nat} (within : place < times) (state : σ) :
    (test.runs host invocation limit times state)[place]? = some (test.run host invocation limit
      (host.afterRuns invocation limit (List.replicate place test) state)) := by
  -- Behind the first run the test differs from what it was in its record alone.
  induction times generalizing place state with
  | zero => omega
  | succ times ih =>
    rw [runs, (alike_run host test invocation limit state).runs_eq]
    cases place with
    | zero => rfl
    | succ place => exact ih (Nat.lt_of_succ_lt_succ within) _

/-- There are as many repeated runs as are asked for. -/
theorem length_runs (times : Nat) (test : Test) (state : σ) :
    (test.runs host invocation limit times state).length = times := by
  -- Each time adds one run, whatever it left.
  induction times generalizing test state with
  | zero => rfl
  | succ times ih => rw [runs, List.length_cons, ih]

/-- A run is explained by a trace of its own: the first failure is the outcome, and its notice or
else the output is recorded. -/
theorem exists_trace_run (host : Host σ) (test : Test) (invocation : Invocation)
    (limit : Duration) (state : σ) :
    ∃ trace, Trace.Follows host test invocation limit state trace
        (test.run host invocation limit state).2 ∧
      let failure? := trace.failure? test.features test.filled
      (test.run host invocation limit state).1 = (failure?.elim .passed .failed, { test with
        captured := (failure?.bind Failure.notice?).or trace.output?
        lastRunFailed := some failure?.isSome }) := by
  obtain ⟨trace, attempt, final, follows, amounts, attempted, -⟩ :=
    exists_trace_attempt host test invocation limit [] state
  rw [run_eq, attempted]
  -- The failures of a trace do not depend on the title of a test, nor on its record.
  exact ⟨trace, follows, settle_of_amountsTo test amounts⟩

/--
A run reads nothing that an earlier run recorded, and leaves nothing of it.

Tests that differ in their records alone make the same calls to a host, in the same order, and end
with the same outcome, as equal tests, in the same state; title, features and the mark of an
expected output stay as they were. When a test is run again and again, each run has a trace of the
answers that the host gives in this run, to the lines and the program that the features ask for.
Outcome and record are read off that trace, the features and the mark.
-/
theorem run_forgets (alike : first.Alike second) (host : Host σ) (invocation : Invocation)
    (limit : Duration) (calls : List Call) (state : σ) :
    let ran := first.run host.recorded invocation limit (calls, state)
    second.run host.recorded invocation limit (calls, state) = ran ∧
    first.run host invocation limit state = (ran.1, ran.2.2) ∧
    ran.1.2.Alike first ∧
    ∀ times, (first.runs host invocation limit times state).length = times ∧
      ∀ place result, (first.runs host invocation limit times state)[place]? = some result →
        ∃ trace, Trace.Follows host first invocation limit
            (host.afterRuns invocation limit (List.replicate place first) state) trace result.2 ∧
          let failure? := trace.failure? first.features first.filled
          result.1 = (failure?.elim .passed .failed, { first with
            captured := (failure?.bind Failure.notice?).or trace.output?
            lastRunFailed := some failure?.isSome }) := by
  -- The run at a place is one of the test as it was at first, and has a trace of its own.
  intro ran
  refine ⟨(alike.run_eq host.recorded invocation limit (calls, state)).symm, run_of_recorded ..,
    alike_run .., fun times => ⟨length_runs .., fun place result found => ?_⟩⟩
  -- There is a result at a place only for a run that was asked for.
  have within : place < times := by
    simpa [length_runs] using (List.getElem?_eq_some_iff.1 found).1
  rw [getElem?_runs host first invocation limit within, Option.some_inj] at found
  subst found
  exact exists_trace_run ..

/-- A filled test with an output of its last run that is the expected one, beside the same without
any record: it is stopped at the time limit, and then it passes. -/
theorem run_forgets_timeout :
    let runs : List ScriptedRun := [.ends (.ok .timedOut), .ends (.ok (.completed "4\n".toList))]
    let expected : Feature := Registry.builtin.featureOf .output ["4\n".toList]
    let first : Test := ⟨"Test 1".toList, Features.empty.add expected, some "4\n".toList, true,
      some false⟩
    let second : Test := (Test.empty "Test 1".toList).add expected
    let ran := first.run (Host.scripted []).recorded ⟨[], []⟩ ⟨0⟩ ([], runs)
    first.captured ≠ second.captured ∧
    second.run (Host.scripted []).recorded ⟨[], []⟩ ⟨0⟩ ([], runs) = ran ∧
    ran.1.1 = .failed .timeout ∧
    ((second.runs (Host.scripted []) ⟨[], []⟩ ⟨0⟩ 2 runs).map fun result => result.1.1) =
      [.failed .timeout, .passed] := by
  intro runs expected first second ran
  -- The first test still holds the record of an earlier run.
  have alike : first.Alike second := ⟨rfl, by decide +kernel, by decide +kernel⟩
  obtain ⟨same, -⟩ := run_forgets alike (Host.scripted []) ⟨[], []⟩ ⟨0⟩ [] runs
  exact ⟨by decide +kernel, same, by decide +kernel, by decide +kernel⟩

end Test

end TaggedTests
