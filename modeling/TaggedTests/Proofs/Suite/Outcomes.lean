import TaggedTests.Proofs.Host.Stateless
import TaggedTests.Suite.Run

/-! What running a suite makes of each of its tests. -/

namespace TaggedTests

variable {σ : Type} {host : Host σ} {registry : Registry} {mode : Mode} {invocation : Invocation}
  {limit : Duration}

/-- What becomes of a test that is met in a state: it is run if it suits the mode. -/
def Test.result (host : Host σ) (registry : Registry) (mode : Mode) (invocation : Invocation)
    (limit : Duration) (test : Test) (state : σ) : Option Outcome × Test :=
  if mode.suits test then
    let ran := (test.run host invocation limit state).1
    (some ran.1, if ran.1 = .passed then mode.afterPass registry ran.2 else ran.2)
  else (none, test)

section

variable {test after : Test} {state : σ}

/-- A test that does not suit the mode has no outcome. -/
theorem Test.result_of_unsuited (unsuited : mode.suits test = false) :
    test.result host registry mode invocation limit state = (none, test) := by
  simp [result, unsuited]

/-- A test that passes may be changed by the mode. -/
theorem Test.result_of_passed (suits : mode.suits test = true)
    (passed : test.settle (test.attempt host invocation limit state).1 = (.passed, after)) :
    test.result host registry mode invocation limit state =
      (some .passed, mode.afterPass registry after) := by
  simp [result, suits, run_eq, passed]

/-- A test that fails keeps what is recorded of it. -/
theorem Test.result_of_failed (suits : mode.suits test = true) {failure : Failure}
    (failed : test.settle (test.attempt host invocation limit state).1 =
      (.failed failure, after)) :
    test.result host registry mode invocation limit state = (some (.failed failure), after) := by
  simp [result, suits, run_eq, failed]

end

/-- The state of a host after it ran tests one after the other. -/
def Host.afterRuns (host : Host σ) (invocation : Invocation) (limit : Duration)
    (tests : List Test) (state : σ) : σ :=
  tests.foldl (fun met test => (test.run host invocation limit met).2) state

@[simp] theorem Host.afterRuns_nil (state : σ) :
    host.afterRuns invocation limit [] state = state := rfl

/-- Of tests that are run if they suit the mode, the first is run or passed over before the
others. -/
theorem Host.afterRuns_filter_cons (test : Test) (rest : List Test) (state : σ) :
    host.afterRuns invocation limit ((test :: rest).filter mode.suits) state =
      host.afterRuns invocation limit (rest.filter mode.suits)
        (if mode.suits test then (test.run host invocation limit state).2 else state) := by
  by_cases suits : mode.suits test = true <;> simp [afterRuns, suits]

/-- The state of a host whose answers do not depend on it makes no difference to a result. -/
theorem Host.Stateless.result (stateless : host.Stateless) (test : Test) (first second : σ) :
    test.result host registry mode invocation limit first =
      test.result host registry mode invocation limit second := by
  simp only [Test.result, stateless.run test invocation limit first second]

namespace Results

/-- Failures are found at their places, one result after the other. -/
theorem failuresFrom_eq (start : Nat) (results : Results) :
    failuresFrom start results =
      (results.zipIdx start).filterMap fun entry => (failure? entry.1).map (entry.2, ·) := by
  -- Each result is a failure at its own place or none at all.
  induction results generalizing start with
  | nil => rfl
  | cons result rest ih => cases failed : failure? result <;> simp [failuresFrom, failed, ih]

/-- There are as many failures as results that are failures. -/
theorem length_failuresFrom (start : Nat) (results : Results) :
    (failuresFrom start results).length =
      results.countP fun result => (failure? result).isSome := by
  -- Each failure is listed once, whatever its place.
  induction results generalizing start with
  | nil => rfl
  | cons result rest ih => cases failed : failure? result <;> simp [failuresFrom, failed, ih]

/-- A run lists exactly the failures of its results, each with its place. -/
theorem mem_failures {mode : Mode} {results : Results} {place : Nat} {failure : Failure} :
    (place, failure) ∈ (Run.ofResults mode results).failures ↔
      ∃ result, results[place]? = some result ∧ failure? result = some failure := by
  simp [Run.ofResults, failuresFrom_eq, List.mem_zipIdx_iff_getElem?]

end Results

namespace Suite

/-- A test is run if it suits the mode, and the tests behind it are left as they are if it used up
the allowed failures. -/
theorem runTests_cons (host : Host σ) (registry : Registry) (mode : Mode) (invocation : Invocation)
    (limit : Duration) (allowed : Option Nat) (test : Test) (rest : List Test) (state : σ) :
    let result := test.result host registry mode invocation limit state
    let next := if mode.suits test then (test.run host invocation limit state).2 else state
    let failed := (Results.failure? result).isSome
    runTests host registry mode invocation limit allowed (test :: rest) state =
      if failed ∧ allowed = some 1 then (result :: Results.untouched rest, next)
      else
        let left := if failed then allowed.map (· - 1) else allowed
        let (results, final) := runTests host registry mode invocation limit left rest next
        (result :: results, final) := by
  -- A test that is left out, that passes or that fails, each as the run treats it.
  by_cases suits : mode.suits test = true
  · rcases ran : test.run host invocation limit state with ⟨⟨_ | failure, after⟩, next⟩
    · simp [runTests, Test.result, suits, ran, Results.failure?]
    · simp [runTests, Test.result, suits, ran, Results.failure?]
  · simp [runTests, Test.result, suits, Results.failure?]

/-- Every test of a run was left as it is or met in some state. -/
theorem forall₂_runTests (host : Host σ) (registry : Registry) (mode : Mode)
    (invocation : Invocation) (limit : Duration) (allowed : Option Nat) (tests : List Test)
    (state : σ) :
    List.Forall₂
      (fun test result => result = (none, test) ∨
        ∃ met, result = test.result host registry mode invocation limit met)
      tests (runTests host registry mode invocation limit allowed tests state).1 := by
  -- The first test is met in the state at hand, and the others are run on or left as they are.
  induction tests generalizing allowed state with
  | nil => exact .nil
  | cons test rest ih =>
    rw [runTests_cons]
    split
    · refine .cons (Or.inr ⟨state, rfl⟩) ?_
      rw [Results.untouched, List.forall₂_map_right_iff]
      exact List.forall₂_same.2 fun other _ => Or.inl rfl
    · exact .cons (Or.inr ⟨state, rfl⟩) (ih _ _)

/-- The state in which a run meets the test at a place: the suitable ones before it were run. -/
def stateAt (host : Host σ) (mode : Mode) (invocation : Invocation) (limit : Duration)
    (tests : List Test) (state : σ) (place : Nat) : σ :=
  host.afterRuns invocation limit ((tests.take place).filter mode.suits) state

/-- What becomes of all tests when nothing cuts the run off. -/
def fullResults (host : Host σ) (registry : Registry) (mode : Mode) (invocation : Invocation)
    (limit : Duration) (tests : List Test) (state : σ) : Results :=
  tests.mapIdx fun place test => test.result host registry mode invocation limit
    (stateAt host mode invocation limit tests state place)

/-- Behind the first test, a run that nothing cuts off goes on in the state after it. -/
theorem fullResults_cons (test : Test) (rest : List Test) (state : σ) :
    fullResults host registry mode invocation limit (test :: rest) state =
      test.result host registry mode invocation limit state ::
        fullResults host registry mode invocation limit rest
          (if mode.suits test then (test.run host invocation limit state).2 else state) := by
  simp only [fullResults, List.mapIdx_cons, stateAt, List.take_succ_cons,
    Host.afterRuns_filter_cons]
  -- A later test meets what the first one has left, if that was run.
  rfl

/-- What becomes of the test at a place, which is met in a state of its own. -/
theorem getElem?_fullResults (tests : List Test) (state : σ) (place : Nat) :
    (fullResults host registry mode invocation limit tests state)[place]? =
      tests[place]?.map fun test => test.result host registry mode invocation limit
        (stateAt host mode invocation limit tests state place) :=
  List.getElem?_mapIdx

/-- A run that nothing cuts off meets every test, and all suitable ones were run in the end. -/
theorem runTests_none (host : Host σ) (registry : Registry) (mode : Mode) (invocation : Invocation)
    (limit : Duration) (tests : List Test) (state : σ) :
    runTests host registry mode invocation limit none tests state =
      (fullResults host registry mode invocation limit tests state,
        host.afterRuns invocation limit (tests.filter mode.suits) state) := by
  induction tests generalizing state with
  | nil => rfl
  | cons test rest ih =>
    -- Without a limit of failures the others are always run.
    rw [runTests_cons, if_neg (by simp), fullResults_cons, Host.afterRuns_filter_cons]
    simp [ih]

/-- A run that nothing cuts off meets every test; in which state makes no difference to a host whose
answers do not depend on it. -/
theorem runTests_of_stateless (stateless : host.Stateless) (tests : List Test) (state met : σ) :
    (runTests host registry mode invocation limit none tests state).1 =
      tests.map fun test => test.result host registry mode invocation limit met := by
  rw [runTests_none, fullResults]
  -- Which state a test meets makes no difference to it.
  refine List.ext_getElem (by simp) fun place _ _ => ?_
  simp [stateless.result _ _ met]

/-- A run that ends knows a limit and gives what its results add up to. -/
theorem run_eq_ok_iff {suite after : Suite} {options : RunOptions} {state final : σ} {run : Run} :
    suite.run host options invocation state = (.ok (run, after), final) ↔
      ∃ limit results, options.limit.elim suite.timeout .ok = .ok limit ∧
        runTests host suite.registry options.mode invocation limit
          (options.breakFail.filter (0 < ·)) suite.tests state = (results, final) ∧
        run = .ofResults options.mode results ∧
        after = { suite with tests := results.map Prod.snd } := by
  unfold Suite.run
  -- There is a run exactly with a known limit, and it is made of the results.
  cases options.limit.elim suite.timeout .ok with
  | error error => simp
  | ok limit =>
    simp only [Prod.mk.injEq, Except.ok.injEq]
    constructor
    · rintro ⟨⟨rfl, rfl⟩, rfl⟩
      exact ⟨limit, _, rfl, rfl, rfl, rfl⟩
    · rintro ⟨_, _, rfl, ran, rfl, rfl⟩
      simp [ran]

end Suite

/-- What a run that fills tests can make of a test: it leaves it as it is but for what is recorded,
or what the program printed becomes the expected output of a test that had none. -/
inductive Test.Refilled (registry : Registry) (before after : Test) : Prop where
  | kept (features : after.features = before.features) (filled : after.filled = before.filled)
  | filled (output : Text) (unfilled : before.filled = false) (filled : after.filled = true)
    (captured : after.captured = some output)
    (features : after.features = before.features.replace (registry.featureOf .output [output]))

namespace Test

variable {test : Test} {state : σ}

/-- A test still has after a run what it had before, if judging it and filling it keep that. -/
theorem result_of_kept {property : Test → Prop} (own : property test)
    (judged : ∀ attempt, property (test.settle attempt).2)
    (filled : ∀ after, property after → property (after.fill registry)) :
    property (test.result host registry mode invocation limit state).2 := by
  by_cases suits : mode.suits test = true
  · -- A test is judged, and filled only if it passes in the mode that fills tests.
    have kept := judged (test.attempt host invocation limit state).1
    rcases settled : test.settle (test.attempt host invocation limit state).1 with
      ⟨_ | failure, after⟩ <;> rw [settled] at kept
    · rw [result_of_passed suits settled]
      cases mode
      · exact kept
      · exact filled after kept
    · rwa [result_of_failed suits settled]
  · rwa [result_of_unsuited (by simpa using suits)]

/-- A test that was made from the registry could still have been made so after a run. -/
theorem Made.result (made : test.Made registry) :
    (test.result host registry mode invocation limit state).2.Made registry :=
  result_of_kept made made.settle fun _ => .fill

/-- A run that fills tests makes of a test what such a run can. -/
theorem refilled_result :
    test.Refilled registry (test.result host registry .fill invocation limit state).2 := by
  by_cases suits : Mode.fill.suits test = true
  · have features := features_settle test (test.attempt host invocation limit state).1
    have filled := filled_settle test (test.attempt host invocation limit state).1
    rcases settled : test.settle (test.attempt host invocation limit state).1 with
      ⟨_ | failure, after⟩ <;> rw [settled] at features filled
    · -- The output that was recorded is the one that is expected from now on.
      obtain ⟨output, -, rfl, -⟩ := settle_eq_passed_iff.1 settled
      rw [result_of_passed suits settled]
      exact .filled output (by simpa [Mode.suits] using suits) rfl rfl rfl
    · -- A failure and a test that does not suit keep everything.
      rw [result_of_failed suits settled]
      exact .kept features filled
  · rw [result_of_unsuited (by simpa using suits)]
    exact .kept rfl rfl

end Test

end TaggedTests
