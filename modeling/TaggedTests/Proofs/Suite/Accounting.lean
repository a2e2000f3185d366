import TaggedTests.Host.Scripted
import TaggedTests.Proofs.Suite.Outcomes
import TaggedTests.Report.FailureReport
import TaggedTests.Suite.Reader

/-! What a run of a suite tells of its tests, and what it leaves of them. -/

namespace TaggedTests

variable {σ : Type} {host : Host σ} {registry : Registry} {mode : Mode} {invocation : Invocation}
  {limit : Duration}

namespace Results

/-- A test that was run passed or failed, and not both. -/
theorem countP_isPass_add (results : Results) :
    results.countP isPass + results.countP (fun result => (failure? result).isSome) =
      results.countP fun result => result.1.isSome := by
  induction results with
  | nil => rfl
  | cons result rest ih =>
    -- A test was not run, or it passed, or it failed.
    rcases result with ⟨_ | _ | failure, test⟩ <;> simp [isPass, failure?] at ih ⊢ <;> omega

/-- The places of failures are some of those of the results, in order. -/
theorem sublist_failuresFrom (start : Nat) (results : Results) :
    ((failuresFrom start results).map Prod.fst).Sublist (List.range' start results.length) := by
  induction results generalizing start with
  | nil => exact List.Sublist.slnil
  | cons result rest ih =>
    rw [List.length_cons, List.range'_succ]
    -- The place of the first result is listed if it is a failure, and passed over otherwise.
    cases failed : failure? result with
    | none => simpa [failuresFrom, failed] using (ih (start + 1)).cons start
    | some failure => simpa [failuresFrom, failed] using (ih (start + 1)).cons_cons start

end Results

namespace Test

variable {test : Test} {state : σ} {failure : Failure}

/-- A test has an outcome exactly when it suits the mode. -/
theorem isSome_result :
    (test.result host registry mode invocation limit state).1.isSome = mode.suits test := by
  unfold result
  split <;> simp_all

/-- The failure of a result is that of the run, which a suitable test alone has. -/
theorem failure?_result :
    Results.failure? (test.result host registry mode invocation limit state) = some failure ↔
      mode.suits test = true ∧ (test.run host invocation limit state).1.1 = .failed failure := by
  unfold result
  -- A test that does not suit is not run, and any other one has the outcome of its run.
  split
  · next suits =>
    rcases ran : (test.run host invocation limit state).1 with ⟨_ | other, after⟩ <;>
      simp [Results.failure?, suits]
  · next unsuited => simp [Results.failure?, unsuited]

end Test

/--
What is left of a test that was run in a mode.

A run that checks tests only records what was printed and whether it failed. A run that fills tests
also makes what was printed the expected output of a test that passed: one block, without modifiers,
under the configured separator.
-/
structure Test.Leaves (registry : Registry) (mode : Mode) (test : Test) (ran : Outcome × Test)
    (left : Test) : Prop where
  title : left.title = test.title
  captured : left.captured = ran.2.captured
  lastRunFailed : left.lastRunFailed = ran.2.lastRunFailed
  checked : mode = .test → left.features = test.features ∧ left.filled = test.filled
  filled : mode = .fill → ran.1 = .passed → left.filled = true ∧
    (∃ output, left.captured = some output ∧ left.features.get? .output =
      some ⟨.output, [output], {}, (registry.spec .output).separator⟩) ∧
    ∀ tag, tag ≠ .output → left.features.get? tag = test.features.get? tag
  unfilled : mode = .fill → ran.1 ≠ .passed →
    left.features = test.features ∧ left.filled = false

/-- A test that suits the mode is left as its run and the mode make it. -/
theorem Test.leaves_result {test : Test} {state : σ} (suits : mode.suits test = true) :
    test.Leaves registry mode (test.run host invocation limit state).1
      (test.result host registry mode invocation limit state).2 := by
  have title := title_settle test (test.attempt host invocation limit state).1
  have features := features_settle test (test.attempt host invocation limit state).1
  have filled := filled_settle test (test.attempt host invocation limit state).1
  -- The result is what the attempt settles to, as a pass or as a failure.
  rw [run_eq]
  rcases settled : test.settle (test.attempt host invocation limit state).1 with
    ⟨_ | failure, after⟩ <;> rw [settled] at title features filled
  · -- A pass is recorded with its output, which a run that fills tests adopts.
    obtain ⟨output, -, recorded, -⟩ := settle_eq_passed_iff.1 settled
    have captured : after.captured = some output := by rw [recorded]; rfl
    rw [result_of_passed suits settled]
    cases mode with
    | test => exact ⟨title, rfl, rfl, fun _ => ⟨features, filled⟩, by simp, by simp⟩
    | fill =>
      refine ⟨title, rfl, rfl, by simp, fun _ _ => ⟨rfl, ⟨output, captured, ?_⟩, ?_⟩, by simp⟩
      · simp only [Mode.afterPass, fill, captured, Option.getD_some]
        exact Features.get?_replace_self after.features (registry.featureOf .output [output])
      · intro tag other
        rw [← features]
        exact Features.get?_replace_of_ne after.features other
  · -- A failure keeps the features, and a test that suits a run that fills was unfilled.
    rw [result_of_failed suits settled]
    refine ⟨title, rfl, rfl, fun _ => ⟨features, filled⟩, by simp, fun filling _ => ⟨features, ?_⟩⟩
    subst filling
    exact filled.trans (by simpa [Mode.suits] using suits)

/--
What is told of a run of a suite that nothing cuts off.

The suitable tests are counted, each as passed or as failed. The failures come in the order of their
places, and they are exactly those of the suitable tests, each of which is run after the suitable
ones before it.
-/
structure Run.Accounts (host : Host σ) (mode : Mode) (invocation : Invocation) (limit : Duration)
    (suite : Suite) (state : σ) (run : Run) : Prop where
  ofMode : run.summary.mode = mode
  suitable : run.summary.suitable = (suite.tests.filter mode.suits).length
  counted : run.summary.passed + run.summary.failed = run.summary.suitable
  failed : run.failures.length = run.summary.failed
  inOrder : (run.failures.map Prod.fst).Pairwise (· < ·)
  failures : ∀ place failure, (place, failure) ∈ run.failures ↔ ∃ test,
    suite.tests[place]? = some test ∧ mode.suits test = true ∧
      (test.run host invocation limit
        (Suite.stateAt host mode invocation limit suite.tests state place)).1.1 = .failed failure

/-- The first failures of a run are reported in order, each by the test at its place. -/
def Run.Reported (suite : Suite) (run : Run) : Prop :=
  ∀ count, (run.reports suite count).length = min count run.summary.failed ∧
    List.Forall₂ (fun entry report => ∃ test, suite.tests[entry.1]? = some test ∧
        report = FailureReport.ofTest suite.registry test entry.2)
      (run.failures.take count) (run.reports suite count)

/--
What a run that nothing cuts off leaves of a suite.

Nothing but the suitable tests has changed, and each of them is left as by its run, before which the
suitable ones before it were run.
-/
structure Suite.Leaves (host : Host σ) (mode : Mode) (invocation : Invocation) (limit : Duration)
    (state : σ) (suite after : Suite) : Prop where
  registry : after.registry = suite.registry
  globals : after.globals = suite.globals
  warnings : after.warnings = suite.warnings
  format : after.format = suite.format
  length : after.tests.length = suite.tests.length
  unsuited : ∀ (place : Nat) test, suite.tests[place]? = some test → mode.suits test = false →
    after.tests[place]? = some test
  suited : ∀ (place : Nat) test, suite.tests[place]? = some test → mode.suits test = true →
    ∃ left, after.tests[place]? = some left ∧ test.Leaves suite.registry mode
      (test.run host invocation limit
        (stateAt host mode invocation limit suite.tests state place)).1 left

namespace Suite

variable {suite : Suite} {state : σ}

/-- Exactly the suitable tests have an outcome, in whatever state each of them is met. -/
theorem countP_fullResults (tests : List Test) (state : σ) :
    (fullResults host registry mode invocation limit tests state).countP (·.1.isSome) =
      (tests.filter mode.suits).length := by
  induction tests generalizing state with
  | nil => rfl
  | cons test rest ih =>
    -- The first test has an outcome if it suits, whatever state it leaves for the others.
    by_cases suits : mode.suits test = true <;>
      simp [fullResults_cons, Test.isSome_result, suits, ih]

/-- A run that nothing cuts off accounts for the tests of the suite. -/
theorem accounts_fullResults (host : Host σ) (mode : Mode) (invocation : Invocation)
    (limit : Duration) (suite : Suite) (state : σ) :
    (Run.ofResults mode (fullResults host suite.registry mode invocation limit suite.tests
      state)).Accounts host mode invocation limit suite state where
  -- The counts are those of the results, one for each test, and failures keep their order.
  ofMode := rfl
  suitable := countP_fullResults suite.tests state
  counted := Results.countP_isPass_add _
  failed := Results.length_failuresFrom 0 _
  inOrder := List.Pairwise.sublist (Results.sublist_failuresFrom 0 _) List.pairwise_lt_range'
  failures place failure := by
    -- A result is found at the place of its test, and fails as the run of that test does.
    simp only [Results.mem_failures, getElem?_fullResults, Option.map_eq_some_iff]
    constructor
    · rintro ⟨_, ⟨test, found, rfl⟩, failed⟩
      exact ⟨test, found, Test.failure?_result.1 failed⟩
    · rintro ⟨test, found, failed⟩
      exact ⟨_, ⟨test, found, rfl⟩, Test.failure?_result.2 failed⟩

/-- A run that nothing cuts off leaves nothing but the suitable tests changed. -/
theorem leaves_fullResults (host : Host σ) (mode : Mode) (invocation : Invocation)
    (limit : Duration) (suite : Suite) (state : σ) :
    suite.Leaves host mode invocation limit state { suite with
      tests := (fullResults host suite.registry mode invocation limit suite.tests state).map
        Prod.snd } where
  registry := rfl
  globals := rfl
  warnings := rfl
  format := rfl
  length := by simp [fullResults]
  -- Each test was run in the state that those before it have left, or not at all.
  unsuited place test found unsuited := by
    simp [getElem?_fullResults, found, Test.result_of_unsuited unsuited]
  suited place test found suits := by
    refine ⟨_, ?_, Test.leaves_result suits⟩
    simp [getElem?_fullResults, found]

end Suite

/-- Reports of failures whose places are those of tests leave none of them out. -/
theorem Run.reported {suite : Suite} {run : Run} (failed : run.failures.length = run.summary.failed)
    (inside : ∀ entry ∈ run.failures, entry.1 < suite.tests.length) : run.Reported suite := by
  intro count
  have reports : List.Forall₂ (fun entry report => ∃ test, suite.tests[entry.1]? = some test ∧
        report = FailureReport.ofTest suite.registry test entry.2)
      (run.failures.take count) (run.reports suite count) := by
    -- Each of the failures that are taken has a test, of which the report is made.
    have taken : ∀ entry ∈ run.failures.take count, entry.1 < suite.tests.length :=
      fun entry member => inside entry (List.mem_of_mem_take member)
    unfold reports
    generalize run.failures.take count = entries at taken
    induction entries with
    | nil => exact .nil
    | cons entry entries ih =>
      rcases entry with ⟨place, failure⟩
      obtain ⟨own, others⟩ := List.forall_mem_cons.1 taken
      have found := List.getElem?_eq_getElem own
      simp only [List.filterMap_cons, found, Option.map_some]
      exact .cons ⟨_, found, rfl⟩ (ih others)
  -- There are as many reports as failures were taken.
  refine ⟨?_, reports⟩
  rw [← reports.length_eq, List.length_take, failed]

namespace Suite

/--
A run of a suite accounts for its tests and changes nothing but those that it ran.

The suitable tests are run once each, in the order of the file and in the state that the one before
left, and no other call is made: for a host that takes down its calls, the state in the end holds
those of these runs. Without a known limit there is no run at all, and the suite stays as it is.
-/
theorem run_accounts (host : Host σ) (suite : Suite) (mode : Mode) (limit : Option Duration)
    (invocation : Invocation) (state : σ) :
    (∀ error, limit.elim suite.timeout .ok = .error error →
      suite.run host ⟨mode, none, limit⟩ invocation state = (.error error, state)) ∧
    ∀ time, limit.elim suite.timeout .ok = .ok time → ∃ run after,
      suite.run host ⟨mode, none, limit⟩ invocation state =
        (.ok (run, after),
          host.afterRuns invocation time (suite.tests.filter mode.suits) state) ∧
      run.Accounts host mode invocation time suite state ∧
      suite.Leaves host mode invocation time state after ∧ run.Reported after := by
  refine ⟨fun error unknown => ?_, fun time known => ?_⟩
  · simp [Suite.run, unknown]
  · have accounts := accounts_fullResults host mode invocation time suite state
    have leaves := leaves_fullResults host mode invocation time suite state
    refine ⟨_, _, run_eq_ok_iff.2 ⟨time, _, known, runTests_none .., rfl, rfl⟩, accounts, leaves,
      Run.reported accounts.failed fun entry member => ?_⟩
    -- A failure stands at the place of a test, of which there are as many as before.
    obtain ⟨test, found, -⟩ := (accounts.failures entry.1 entry.2).1 member
    exact leaves.length ▸ (List.getElem?_eq_some_iff.1 found).1

/-- A filled test, one that is filled with what it reads, and one whose preparation fails; a file
with a limit that cannot be read is not run. -/
theorem run_accounts_mixed :
    let host := Host.scripted [("false".toList, .ok 1)]
    let suite := ofBlocks .builtin [⟨"INPUT".toList, "a".toList⟩, ⟨"OUTPUT".toList, "a".toList⟩,
      ⟨"INPUT".toList, "b".toList⟩, ⟨"INPUT".toList, "c".toList⟩,
      ⟨"STARTUP".toList, "false".toList⟩]
    let limitless := ofBlocks .builtin [⟨"TIMEOUT".toList, "later".toList⟩]
    (∃ run after final,
      suite.run host ⟨.fill, none, some ⟨0⟩⟩ ⟨[], []⟩ [] = (.ok (run, after), final) ∧
      run.summary.suitable = 2 ∧ run.summary.passed + run.summary.failed = 2 ∧
      (2, .startup "false".toList) ∈ run.failures ∧ after.tests[0]? = suite.tests[0]? ∧
      ∃ left, after.tests[1]? = some left ∧ left.filled = true) ∧
    ∃ error, limitless.run host ⟨.fill, none, none⟩ ⟨[], []⟩ [] = (.error error, []) := by
  intro host suite limitless
  have accounts := run_accounts host suite .fill (some ⟨0⟩) ⟨[], []⟩ []
  -- Of the three tests the first one is filled already, the second one gets filled and the last
  -- one fails.
  obtain ⟨run, after, ran, accounts, leaves, -⟩ := accounts.2 ⟨0⟩ rfl
  have two : (suite.tests.filter Mode.fill.suits).length = 2 := by decide +kernel
  refine ⟨⟨run, after, _, ran, accounts.suitable.trans two,
    accounts.counted.trans (accounts.suitable.trans two), ?_, ?_, ?_⟩, ?_⟩
  · refine (accounts.failures 2 _).2 ⟨_, rfl, ?_, ?_⟩ <;> decide +kernel
  · -- The first test is as it was, and the second one has been filled.
    exact leaves.unsuited 0 _ rfl (by decide +kernel)
  · obtain ⟨left, found, leaves⟩ := leaves.suited 1 _ rfl (by decide +kernel)
    exact ⟨left, found, (leaves.filled rfl (by decide +kernel)).1⟩
  · have unknown : ∃ error, limitless.timeout = .error error := ⟨_, rfl⟩
    -- A limit that is no number ends the run before it begins.
    obtain ⟨error, unknown⟩ := unknown
    exact ⟨error, (run_accounts host limitless .fill none ⟨[], []⟩ []).1 error unknown⟩

end Suite

end TaggedTests
