import TaggedTests.Host.Scripted
import TaggedTests.Proofs.Suite.Calls
import TaggedTests.Suite.Reader

/-! A run that stops after a number of failures is the full run of a front of the suite. -/

namespace TaggedTests

variable {σ : Type} {host : Host σ} {registry : Registry} {mode : Mode} {invocation : Invocation}
  {limit : Duration}

/-- Running two lists of tests is running the second after the first. -/
theorem Host.afterRuns_append (first second : List Test) (state : σ) :
    host.afterRuns invocation limit (first ++ second) state =
      host.afterRuns invocation limit second (host.afterRuns invocation limit first state) :=
  List.foldl_append

namespace Results

/-- Failures one place further on. -/
theorem failuresFrom_succ (start : Nat) (results : Results) :
    failuresFrom (start + 1) results =
      (failuresFrom start results).map fun entry => (entry.1 + 1, entry.2) := by
  -- Counting from one more makes every place one more.
  induction results generalizing start with
  | nil => rfl
  | cons result rest ih => cases failed : failure? result <;> simp [failuresFrom, failed, ih]

/-- Tests that were not run have no failures. -/
theorem failuresFrom_untouched (start : Nat) (tests : List Test) :
    failuresFrom start (untouched tests) = [] := by
  -- A test that was left out is not a failure.
  induction tests generalizing start with
  | nil => rfl
  | cons test rest ih => simpa [untouched, failuresFrom, failure?] using ih (start + 1)

/-- Tests that were not run add no failure. -/
theorem failuresFrom_append_untouched (start : Nat) (results : Results) (tests : List Test) :
    failuresFrom start (results ++ untouched tests) = failuresFrom start results := by
  -- Behind the results there is no further failure.
  induction results generalizing start with
  | nil => exact failuresFrom_untouched start tests
  | cons result rest ih => cases failed : failure? result <;> simp [failuresFrom, failed, ih]

/-- How many results there are up to and including the failure behind a number of others; all of
them, if there is none. -/
def reach (spared : Nat) (results : Results) : Nat :=
  (failuresFrom 0 results)[spared]?.elim results.length (·.1 + 1)

section

variable {result : Option Outcome × Test} {rest : Results} {failure : Failure}

/-- All results are reached if there are no more failures than are spared. -/
theorem reach_of_length_le {results : Results} {spared : Nat}
    (few : (failuresFrom 0 results).length ≤ spared) : reach spared results = results.length := by
  rw [reach, List.getElem?_eq_none few]
  rfl

/-- The failure behind the spared ones is the last result that is reached. -/
theorem reach_of_getElem? {results : Results} {spared place : Nat}
    (last : (failuresFrom 0 results)[spared]? = some (place, failure)) :
    reach spared results = place + 1 := by
  rw [reach, last]
  rfl

/-- A result without a failure is passed on the way. -/
theorem reach_cons_of_none (fine : failure? result = none) (spared : Nat) :
    reach spared (result :: rest) = reach spared rest + 1 := by
  simp only [reach, failuresFrom, fine, failuresFrom_succ, List.getElem?_map]
  cases (failuresFrom 0 rest)[spared]? <;> rfl

/-- The first failure is reached at once if no other is spared. -/
theorem reach_zero_cons (failed : failure? result = some failure) :
    reach 0 (result :: rest) = 1 := by
  simp [reach, failuresFrom, failed]

/-- The first failure is the first of those that are spared. -/
theorem reach_succ_cons (failed : failure? result = some failure) (spared : Nat) :
    reach (spared + 1) (result :: rest) = reach spared rest + 1 := by
  simp only [reach, failuresFrom, failed, failuresFrom_succ, List.getElem?_cons_succ,
    List.getElem?_map]
  -- With the first failure gone, the one after it is counted from one place further on.
  cases (failuresFrom 0 rest)[spared]? <;> rfl

end

/-- The results up to a failure have it and the spared ones as their failures. -/
theorem failuresFrom_take_reach (start spared : Nat) (results : Results) :
    failuresFrom start (results.take (reach spared results)) =
      (failuresFrom start results).take (spared + 1) := by
  -- A failure uses up one of the spared ones, and the last one ends the list.
  induction results generalizing start spared with
  | nil => simp [failuresFrom]
  | cons result rest ih =>
    cases failed : failure? result with
    | none => simp [reach_cons_of_none failed, failuresFrom, failed, ih]
    | some failure =>
      cases spared with
      | zero => simp [reach_zero_cons failed, failuresFrom, failed]
      | succ spared => simp [reach_succ_cons failed, failuresFrom, failed, ih]

end Results

namespace Suite

/-- A run that stops at a failure is the full run of the tests up to it, and leaves the others as
they are. -/
theorem runTests_some (host : Host σ) (registry : Registry) (mode : Mode) (invocation : Invocation)
    (limit : Duration) (spared : Nat) (tests : List Test) (state : σ) :
    let full := fullResults host registry mode invocation limit tests state
    let front := Results.reach spared full
    runTests host registry mode invocation limit (some (spared + 1)) tests state =
      (full.take front ++ Results.untouched (tests.drop front),
        host.afterRuns invocation limit ((tests.take front).filter mode.suits) state) := by
  induction tests generalizing spared state with
  | nil => rfl
  | cons test rest ih =>
    -- The first test is run if it suits, and the others follow unless it used up the failures.
    rw [runTests_cons, fullResults_cons]
    cases failed : Results.failure? (test.result host registry mode invocation limit state) with
    | none => simp [Results.reach_cons_of_none failed, Host.afterRuns_filter_cons, ih]
    | some failure =>
      cases spared with
      -- The failure used up what was spared, or one less is spared for the others.
      | zero => simp [Results.reach_zero_cons failed, Host.afterRuns_filter_cons]
      | succ spared => simp [Results.reach_succ_cons failed, Host.afterRuns_filter_cons, ih]

end Suite

namespace Run

/-- A run is fine exactly when its results have no failure. -/
theorem isOk_ofResults (mode : Mode) (results : Results) :
    (ofResults mode results).summary.isOk = (Results.failuresFrom 0 results).isEmpty := by
  simp only [ofResults, Summary.isOk, ← Results.length_failuresFrom 0 results]
  cases Results.failuresFrom 0 results <;> rfl

end Run

namespace Results

/-- There are no failures exactly if no result is one. -/
theorem failuresFrom_eq_nil_iff {start : Nat} {results : Results} :
    failuresFrom start results = [] ↔ ∀ result ∈ results, failure? result = none := by
  rw [← List.length_eq_zero_iff, length_failuresFrom, List.countP_eq_zero]
  simp

end Results

namespace Suite

/-- What comes of tests without a failure does not depend on how many failures are allowed. -/
theorem runTests_of_fine {first : Option Nat} {tests : List Test} {state : σ}
    (fine : ∀ result ∈ (runTests host registry mode invocation limit first tests state).1,
      Results.failure? result = none) (second : Option Nat) :
    runTests host registry mode invocation limit second tests state =
      runTests host registry mode invocation limit first tests state := by
  induction tests generalizing state with
  | nil => rfl
  | cons test rest ih =>
    rw [runTests_cons] at fine ⊢
    rw [runTests_cons]
    cases failed : Results.failure? (test.result host registry mode invocation limit state) with
    | none =>
      -- A test that does not fail leaves the limit as it is.
      simp only [failed, Option.isSome_none, Bool.false_eq_true, false_and, if_false] at fine ⊢
      rw [ih (List.forall_mem_cons.1 fine).2]
    | some failure =>
      -- The first test has failed then, whether the others were run or not.
      have own : Results.failure? (test.result host registry mode invocation limit state) =
          none := by
        split at fine <;> exact (List.forall_mem_cons.1 fine).1
      cases failed.symm.trans own

/-- A run is fine exactly when it lists no failure. -/
theorem isOk_iff_of_run {suite after : Suite} {options : RunOptions} {state final : σ} {run : Run}
    (ran : suite.run host options invocation state = (.ok (run, after), final)) :
    run.summary.isOk = true ↔ run.failures = [] := by
  -- Both are read off the same results.
  obtain ⟨-, results, -, -, rfl, -⟩ := run_eq_ok_iff.1 ran
  rw [Run.isOk_ofResults, List.isEmpty_iff]
  rfl

/-- Another number of allowed failures leads to a run as well, which is the same one if there are
no failures. -/
theorem exists_run_breakFail {suite after : Suite} {first : Option Nat} {time : Option Duration}
    {state final : σ} {run : Run}
    (ran : suite.run host ⟨mode, first, time⟩ invocation state = (.ok (run, after), final))
    (second : Option Nat) :
    ∃ run' after' final',
      suite.run host ⟨mode, second, time⟩ invocation state = (.ok (run', after'), final') ∧
      (run.failures = [] → run' = run ∧ after' = after ∧ final' = final) := by
  obtain ⟨limit, results, known, tested, rfl, rfl⟩ := run_eq_ok_iff.1 ran
  refine ⟨_, _, _, run_eq_ok_iff.2 ⟨limit, _, known, rfl, rfl, rfl⟩, fun fine => ?_⟩
  -- Without a failure no number of failures stops the run.
  have each := Results.failuresFrom_eq_nil_iff.1 fine
  rw [runTests_of_fine (by rw [tested]; exact each) (second.filter (0 < ·)), tested]
  exact ⟨rfl, rfl, rfl⟩

end Suite

/--
A run is another one, cut off at a number of failures.

With fewer failures it is that one. Otherwise it ends with the last failure that is allowed: up to
its place all tests end as in the other run, and behind it all are as they were.
-/
structure Suite.CutOff (suite : Suite) (count : Nat) (full cut : Run × Suite)
    (fullEnd cutEnd : List Call × σ) : Prop where
  calls : cutEnd.1 <+: fullEnd.1
  failures : cut.1.failures = full.1.failures.take count
  uncut : full.1.failures.length < count → cut = full ∧ cutEnd = fullEnd
  upToLast : ∀ place failure, full.1.failures[count - 1]? = some (place, failure) →
    ∀ earlier ≤ place, cut.2.tests[earlier]? = full.2.tests[earlier]?
  behindLast : ∀ place failure, full.1.failures[count - 1]? = some (place, failure) →
    ∀ later, place < later → cut.2.tests[later]? = suite.tests[later]?
  isOk : cut.1.summary.isOk = full.1.summary.isOk

namespace Suite

/-- The full run of a front of a suite is the run of the suite, cut off at its last failure. -/
theorem cutOff_take_reach (host : Host σ) (suite : Suite) (mode : Mode) (invocation : Invocation)
    (limit : Duration) (spared : Nat) (start : List Call × σ) :
    let full := fullResults host.recorded suite.registry mode invocation limit suite.tests start
    let front := Results.reach spared full
    let cut := full.take front ++ Results.untouched (suite.tests.drop front)
    suite.CutOff (spared + 1)
      (.ofResults mode full, { suite with tests := full.map Prod.snd })
      (.ofResults mode cut, { suite with tests := cut.map Prod.snd })
      (host.recorded.afterRuns invocation limit (suite.tests.filter mode.suits) start)
      (host.recorded.afterRuns invocation limit ((suite.tests.take front).filter mode.suits)
        start) := by
  intro full front cut
  have many : full.length = suite.tests.length := by simp [full, fullResults]
  have split : cut = full.take front ++ Results.untouched (suite.tests.drop front) := rfl
  have failures : Results.failuresFrom 0 cut =
      (Results.failuresFrom 0 full).take (spared + 1) := by
    rw [Results.failuresFrom_append_untouched, Results.failuresFrom_take_reach]
  -- The last failure that is allowed stands at the place of a result, and the front ends there.
  have reached {place : Nat} {failure : Failure}
      (last : (Results.failuresFrom 0 full)[spared]? = some (place, failure)) :
      front = place + 1 ∧ (full.take front).length = place + 1 := by
    obtain ⟨result, found, -⟩ :=
      (@Results.mem_failures mode full place failure).1 (List.mem_of_getElem? last)
    have inside : place < full.length := (List.getElem?_eq_some_iff.1 found).1
    have ends : front = place + 1 := Results.reach_of_getElem? last
    exact ⟨ends, by rw [ends, List.length_take]; omega⟩
  exact {
    calls := by
      -- What was run in the front is run first in any case.
      conv_rhs => rw [← List.take_append_drop front suite.tests, List.filter_append,
        Host.afterRuns_append]
      exact host.prefix_afterRuns invocation limit _ _
    failures := failures
    uncut := fun few => by
      -- With few failures the front is the whole suite.
      have whole : front = full.length := Results.reach_of_length_le (Nat.le_of_lt_succ few)
      have all : suite.tests.take front = suite.tests := List.take_of_length_le (by omega)
      have none : suite.tests.drop front = [] := List.drop_of_length_le (by omega)
      have same : cut = full := by
        rw [split, none, List.take_of_length_le (by omega)]
        exact List.append_nil full
      rw [same, all]
      exact ⟨rfl, rfl⟩
    upToLast := fun place failure last earlier before => by
      -- Up to the last failure both have the results of the front.
      obtain ⟨ends, length⟩ := reached last
      change (cut.map Prod.snd)[earlier]? = (full.map Prod.snd)[earlier]?
      rw [List.getElem?_map, split, List.getElem?_append_left (by omega),
        List.getElem?_take_of_lt (by omega), List.getElem?_map]
    behindLast := fun place failure last later behind => by
      obtain ⟨ends, length⟩ := reached last
      -- Behind the last failure the tests are those that were left out.
      have distance : place + 1 + (later - (place + 1)) = later := by omega
      change (cut.map Prod.snd)[later]? = suite.tests[later]?
      rw [List.getElem?_map, split, List.getElem?_append_right (by omega), length, ends,
        Results.untouched, List.getElem?_map, List.getElem?_drop, distance]
      cases suite.tests[later]? <;> rfl
    isOk := by
      -- A list of failures and its first ones are empty together.
      rw [Run.isOk_ofResults, Run.isOk_ofResults, failures]
      cases Results.failuresFrom 0 full <;> rfl }

/--
Stopping after a number of failures cuts a run off and changes nothing before the cut.

Both runs start in the same state of the host, whose calls are recorded; recording them makes no
difference to what comes of a run. Stopping after no failure at all means not to stop.
-/
theorem run_breakFail (host : Host σ) (suite : Suite) (mode : Mode) (limit : Option Duration)
    (invocation : Invocation) (calls : List Call) (state : σ) :
    (∀ time, limit.elim suite.timeout .ok = .ok time → ∀ count, 0 < count →
      ∃ full cut fullEnd cutEnd,
        suite.run host.recorded ⟨mode, none, limit⟩ invocation (calls, state) =
          (.ok full, fullEnd) ∧
        suite.run host.recorded ⟨mode, some count, limit⟩ invocation (calls, state) =
          (.ok cut, cutEnd) ∧
        suite.run host ⟨mode, none, limit⟩ invocation state = (.ok full, fullEnd.2) ∧
        suite.run host ⟨mode, some count, limit⟩ invocation state = (.ok cut, cutEnd.2) ∧
        suite.CutOff count full cut fullEnd cutEnd) ∧
    suite.run host ⟨mode, some 0, limit⟩ invocation state =
      suite.run host ⟨mode, none, limit⟩ invocation state := by
  refine ⟨fun time known count positive => ?_, rfl⟩
  -- All failures but the last one that is allowed are spared.
  obtain ⟨spared, rfl⟩ := Nat.exists_eq_add_one.2 positive
  have full : suite.run host.recorded ⟨mode, none, limit⟩ invocation (calls, state) = (.ok _, _) :=
    run_eq_ok_iff.2 ⟨time, _, known, runTests_none .., rfl, rfl⟩
  have cut : suite.run host.recorded ⟨mode, some (spared + 1), limit⟩ invocation (calls, state) =
      (.ok _, _) :=
    run_eq_ok_iff.2 ⟨time, _, known, runTests_some .., rfl, rfl⟩
  exact ⟨_, _, _, _, full, cut, run_of_recorded full, run_of_recorded cut,
    cutOff_take_reach host suite mode invocation time spared (calls, state)⟩

/-- A passing test, one whose preparation fails and one whose output is wrong: the run ends with
the second, and the third is as it was. -/
theorem run_breakFail_first :
    let host := Host.scripted [("false".toList, .ok 1)]
    let suite := ofBlocks .builtin [⟨"INPUT".toList, "a".toList⟩, ⟨"OUTPUT".toList, "a".toList⟩,
      ⟨"INPUT".toList, "b".toList⟩, ⟨"STARTUP".toList, "false".toList⟩,
      ⟨"OUTPUT".toList, "b".toList⟩, ⟨"INPUT".toList, "c".toList⟩, ⟨"OUTPUT".toList, "d".toList⟩]
    ∃ full cut fullEnd cutEnd,
      suite.run host.recorded ⟨.test, none, some ⟨0⟩⟩ ⟨[], []⟩ ([], []) = (.ok full, fullEnd) ∧
      suite.run host.recorded ⟨.test, some 1, some ⟨0⟩⟩ ⟨[], []⟩ ([], []) = (.ok cut, cutEnd) ∧
      cutEnd.1 <+: fullEnd.1 ∧ cut.1.failures = [(1, .startup "false".toList)] ∧
      cut.2.tests[0]? = full.2.tests[0]? ∧ cut.2.tests[2]? = suite.tests[2]? := by
  intro host suite
  obtain ⟨full, cut, fullEnd, cutEnd, ran, stopped, -, -, cutOff⟩ :=
    (run_breakFail host suite .test (some ⟨0⟩) ⟨[], []⟩ [] []).1 ⟨0⟩ rfl 1 (by decide)
  -- The second test is the first that fails, and the third fails too.
  have failures : (suite.run host.recorded ⟨.test, none, some ⟨0⟩⟩ ⟨[], []⟩ ([], [])).1.map
      (·.1.failures.take 1) = .ok [(1, .startup "false".toList)] := by decide +kernel
  rw [ran] at failures
  have first : full.1.failures.take 1 = [(1, .startup "false".toList)] := Except.ok.inj failures
  have last : full.1.failures[0]? = some (1, .startup "false".toList) := by
    rw [← List.getElem?_take_of_lt Nat.one_pos, first]
    rfl
  -- Up to the failure the tests agree, and behind it they are untouched.
  exact ⟨full, cut, fullEnd, cutEnd, ran, stopped, cutOff.calls, cutOff.failures.trans first,
    cutOff.upToLast 1 _ last 0 (by decide), cutOff.behindLast 1 _ last 2 (by decide)⟩

end Suite

end TaggedTests
