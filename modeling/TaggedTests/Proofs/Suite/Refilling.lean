import TaggedTests.Proofs.Suite.Saving

/-! A program passes the tests that it filled, once they were saved and read again. -/

namespace TaggedTests

/-- A block that is expected alone, without modifiers, accepts itself. -/
theorem Registry.accepts_featureOf (registry : Registry) (tag : Tag) (content : Text) :
    (registry.featureOf tag [content]).accepts content = true := by
  -- No modifier was recorded, so the joined text itself is expected.
  have plain : (registry.featureOf tag [content]).modifiers.shuffled = false := rfl
  rw [Feature.accepts, plain, registry.merged_featureOf]
  simp

namespace Test

variable {σ : Type} {host : Host σ} {registry : Registry} {mode : Mode} {invocation : Invocation}
  {limit : Duration} {before after test : Test} {title : Text}

/-- A run that fills tests changes no joined text but the expected output. -/
theorem Refilled.merged?_eq (refilled : before.Refilled registry after) {tag : Tag}
    (other : tag ≠ .output) : after.features.merged? tag = before.features.merged? tag := by
  -- Filling replaces the expected output alone.
  cases refilled with
  | kept features _ => rw [features]
  | filled output _ _ _ features =>
    have differ : tag ≠ (registry.featureOf .output [output]).tag := other
    rw [features, Features.merged?, Features.get?_replace_of_ne _ differ, Features.merged?]

/-- What a run that fills tests leaves is read back as a test that is attempted as before. -/
theorem Refilled.attempt_reread (refilled : before.Refilled registry after)
    (keyed : after.features.Keyed) (title : Text) (host : Host σ) (invocation : Invocation)
    (limit : Duration) (state : σ) :
    (after.reread registry title).attempt host invocation limit state =
      before.attempt host invocation limit state := by
  -- Preparation, arguments, input and cleanup are joined texts of other tags.
  have same (tag : Tag) (perTest : tag.scope = .perTest) (noComment : tag ≠ .comment)
      (noOutput : tag ≠ .output) :
      (after.reread registry title).merged tag = before.merged tag := by
    rw [merged_reread keyed perTest noComment, merged, refilled.merged?_eq noOutput, merged]
  refine attempt_congr ?_ ?_ ?_ ?_ host invocation limit state
  · rw [startup, same .startup rfl (by decide) (by decide), startup]
  · rw [args, same .cmd rfl (by decide) (by decide), args]
  · rw [stdin, same .input rfl (by decide) (by decide), stdin]
  · rw [cleanup, same .cleanup rfl (by decide) (by decide), cleanup]

/-- A test that passes in a run that fills tests adopts the output that it was attempted with. -/
theorem exists_output_of_passed {state : σ}
    (passed : (test.result host registry .fill invocation limit state).1 = some .passed) :
    test.filled = false ∧ ∃ output, (test.attempt host invocation limit state).1 = .ok output ∧
      (test.result host registry .fill invocation limit state).2 =
        (test.recordRun output false).fill registry := by
  -- Only a test that suits the run and passes it is marked as passed.
  by_cases suits : Mode.fill.suits test = true
  · rcases settled : test.settle (test.attempt host invocation limit state).1 with
      ⟨_ | failure, after⟩
    · obtain ⟨output, attempted, rfl, -⟩ := settle_eq_passed_iff.1 settled
      rw [result_of_passed suits settled]
      exact ⟨by simpa [Mode.suits] using suits, output, attempted, rfl⟩
    · simp [result_of_failed suits settled] at passed
  · simp [result_of_unsuited (by simpa using suits)] at passed

/-- A test that fails in a run that fills tests stays unfilled. -/
theorem filled_result_of_failed {state : σ} {failure : Failure}
    (failed : (test.result host registry .fill invocation limit state).1 =
      some (.failed failure)) :
    (test.result host registry .fill invocation limit state).2.filled = false := by
  -- A failing test keeps its mark, which it lacks if it suits the run.
  by_cases suits : Mode.fill.suits test = true
  · have unfilled : test.filled = false := by simpa [Mode.suits] using suits
    have kept := filled_settle test (test.attempt host invocation limit state).1
    rcases settled : test.settle (test.attempt host invocation limit state).1 with
      ⟨_ | failure, after⟩ <;> rw [settled] at kept
    · simp [result_of_passed suits settled] at failed
    · rw [result_of_failed suits settled, kept, unfilled]
  · simp [result_of_unsuited (by simpa using suits)] at failed

/-- An unfilled test is run by a run that fills tests. -/
theorem passed_or_failed {state : σ} (unfilled : test.filled = false) :
    (test.result host registry .fill invocation limit state).1 = some .passed ∨
      ∃ failure, (test.result host registry .fill invocation limit state).1 =
        some (.failed failure) := by
  -- An unfilled test suits a run that fills tests, and so it is judged.
  have suits : Mode.fill.suits test = true := by simp [Mode.suits, unfilled]
  rcases settled : test.settle (test.attempt host invocation limit state).1 with
    ⟨_ | failure, after⟩
  · exact Or.inl (congrArg Prod.fst (result_of_passed suits settled))
  · exact Or.inr ⟨failure, congrArg Prod.fst (result_of_failed suits settled)⟩

/-- A test that was filled is read back with a single expected block, which accepts itself. -/
theorem expects_reread_fill (keyed : test.features.Keyed) (output : Text) (failed : Bool)
    (title : Text) :
    (((test.recordRun output failed).fill registry).reread registry title).expects output =
      true := by
  -- The output that was printed is now the expected one.
  have adopted : ((test.recordRun output failed).fill registry).features.get? .output =
      some (registry.featureOf .output [output]) :=
    Features.get?_replace_self test.features (registry.featureOf .output [output])
  have refilled := keyed.replace (registry.featureOf .output [output])
  rw [expects, get?_reread_of_perTest refilled rfl (by decide), adopted]
  exact registry.accepts_featureOf .output output

/-- A host whose answers do not depend on its state lets a test pass that it filled. -/
theorem result_reread_of_passed (made : before.Made registry) (stateless : host.Stateless)
    {first : σ} (passed :
      (before.result host registry .fill invocation limit first).1 = some .passed)
    (title : Text) (second : σ) :
    let again := (before.result host registry .fill invocation limit first).2.reread registry title
    again.filled = true ∧ ∃ output,
      again.result host registry .test invocation limit second =
        (some .passed, again.recordRun output false) := by
  intro again
  obtain ⟨unfilled, output, attempted, left⟩ := exists_output_of_passed passed
  have after : (before.result host registry .fill invocation limit first).2.Made registry :=
    made.result
  have refilled : before.Refilled registry
      (before.result host registry .fill invocation limit first).2 := refilled_result
  -- The test asks the same as before, and so it is attempted with the same output.
  have same : (again.attempt host invocation limit second).1 = .ok output := by
    rw [stateless.attempt again invocation limit second first,
      refilled.attempt_reread after.features.keyed, attempted]
  -- It was filled with the output, which it expects now.
  have filled : again.filled = true := by
    rw [filled_reread after, left]
    rfl
  have expects : again.expects output = true := by
    simp only [again, left]
    exact expects_reread_fill made.features.keyed output false title
  have suits : Mode.test.suits again = true := filled
  have settled : again.settle (again.attempt host invocation limit second).1 =
      (.passed, again.recordRun output false) :=
    settle_eq_passed_iff.2 ⟨output, same, rfl, Or.inr expects⟩
  exact ⟨filled, output, result_of_passed suits settled⟩

/-- An unfilled test either is filled and passes when it was read back, or fails and is not run
then. -/
theorem result_reread (made : before.Made registry) (stateless : host.Stateless)
    (unfilled : before.filled = false) {first : σ} {again : Test}
    (back : (before.result host registry .fill invocation limit first).2.reread registry title =
      again) (second : σ) :
    ((before.result host registry .fill invocation limit first).1 = some .passed ∧
      again.filled = true ∧ ∃ output,
        again.result host registry .test invocation limit second =
          (some .passed, again.recordRun output false)) ∨
    ∃ failure,
      (before.result host registry .fill invocation limit first).1 = some (.failed failure) ∧
      again.filled = false ∧
        again.result host registry .test invocation limit second = (none, again) := by
  subst back
  -- A test that passed expects what it printed, and one that failed is still unfilled and left out.
  rcases @passed_or_failed σ host registry invocation limit before first unfilled with
    passed | ⟨failure, failed⟩
  · exact Or.inl ⟨passed, result_reread_of_passed made stateless passed title second⟩
  · have stays : ((before.result host registry .fill invocation limit first).2.reread registry
        title).filled = false := by
      rw [filled_reread made.result, filled_result_of_failed failed]
    exact Or.inr ⟨failure, failed, stays, result_of_unsuited stays⟩

end Test

namespace Run

/-- A run failed at a place. -/
def FailedAt (run : Run) (place : Nat) : Prop := ∃ failure, (place, failure) ∈ run.failures

/-- A run failed at a place when the result at that place is a failure. -/
theorem failedAt_ofResults {mode : Mode} {results : Results} {place : Nat}
    {result : Option Outcome × Test} (found : results[place]? = some result) :
    (ofResults mode results).FailedAt place ↔ ∃ failure, result.1 = some (.failed failure) := by
  simp only [FailedAt, Results.mem_failures, found, Option.some_inj, exists_eq_left']
  rcases result with ⟨_ | _ | failure, test⟩ <;> simp [Results.failure?]

end Run

namespace Suite

variable {σ : Type} {host : Host σ} {suite reloaded : Suite}

/-- What is read back has the joined texts of the file. -/
theorem ReadBack.merged?_globals (back : suite.ReadBack reloaded) {tag : Tag}
    (global : tag.scope = .global) : reloaded.globals.merged? tag = suite.globals.merged? tag := by
  -- Joining the blocks of a feature leaves its joined text.
  have collapsed (feature : Feature) : feature.collapsed.merged = feature.merged :=
    List.intercalate_singleton
  rw [Features.merged?, back.globals, if_pos global, Option.map_map, Features.merged?]
  exact congrFun (congrArg Option.map (funext collapsed)) _

/-- What is read back has the time limit of the suite. -/
theorem ReadBack.timeout (back : suite.ReadBack reloaded) : reloaded.timeout = suite.timeout := by
  have same := @ReadBack.merged?_globals _ _ back .timeout rfl
  simp only [Suite.timeout, globalOrFallback, back.registry, same]

variable {invocation : Invocation} {run filling : Run} {after filled : Suite}
  {limit : Option Duration} {state final next : σ}

/-- What a run that fills tests adopts has what all outputs of the host have. -/
theorem captured_of_prints {property : Text → Prop} (prints : host.Prints property)
    {breakFail : Option Nat}
    (ran : suite.run host ⟨.fill, breakFail, limit⟩ invocation state = (.ok (run, after), final))
    {place : Nat} {test : Test} {output : Text} (newly : suite.NewlyFilled after place test)
    (captured : test.captured = some output) : property output := by
  obtain ⟨time, results, -, listed, -, rfl⟩ := run_eq_ok_iff.1 ran
  have each := forall₂_runTests host suite.registry .fill invocation time
    (breakFail.filter (0 < ·)) suite.tests state
  rw [listed] at each
  obtain ⟨former, before, unfilled, found, filled⟩ := newly
  rw [List.getElem?_map, Option.map_eq_some_iff] at found
  obtain ⟨result, located, rfl⟩ := found
  -- The test is as it was or is the result of a run.
  rcases related_of_forall₂ each before located with rfl | ⟨met, rfl⟩
  · simp [unfilled] at filled
  · -- The test passed, and it holds the output of a program that ended in time.
    rcases former.passed_or_failed unfilled with passed | ⟨failure, failed⟩
    · obtain ⟨-, printed, attempted, left⟩ := Test.exists_output_of_passed passed
      rw [left] at captured
      obtain rfl : printed = output := Option.some_inj.1 captured
      obtain ⟨prepared, ended⟩ := Test.exists_execute_of_attempt attempted
      exact prints _ _ _ _ _ _ ended
    · simp [Test.filled_result_of_failed failed] at filled

/-- A run that knows a limit and that nothing cuts off gives the results of all tests. -/
theorem run_of_stateless (stateless : host.Stateless) (mode : Mode) (invocation : Invocation)
    {time : Duration} (known : limit.elim suite.timeout .ok = .ok time) (state : σ) :
    let results := suite.tests.map fun test =>
      test.result host suite.registry mode invocation time state
    ∃ final, suite.run host ⟨mode, none, limit⟩ invocation state =
      (.ok (.ofResults mode results, { suite with tests := results.map Prod.snd }), final) := by
  intro results
  -- Without a limit of failures every test is run, and it does not matter in which state.
  have met : (runTests host suite.registry mode invocation time none suite.tests state).1 =
      results := runTests_of_stateless stateless suite.tests state state
  exact ⟨_, run_eq_ok_iff.2 ⟨time, results, known, Prod.ext met rfl, rfl, rfl⟩⟩

/-- A run that nothing cuts off knows a limit and gives the results of all tests. -/
theorem eq_of_run (stateless : host.Stateless) {mode : Mode}
    (ran : suite.run host ⟨mode, none, limit⟩ invocation state = (.ok (run, after), final)) :
    ∃ time, limit.elim suite.timeout .ok = .ok time ∧
      let results := suite.tests.map fun test =>
        test.result host suite.registry mode invocation time state
      run = .ofResults mode results ∧ after = { suite with tests := results.map Prod.snd } := by
  obtain ⟨time, results, known, met, rfl, rfl⟩ := run_eq_ok_iff.1 ran
  -- The results do not depend on the states in which the tests were run.
  obtain rfl : _ = results :=
    (runTests_of_stateless stateless suite.tests state state).symm.trans (congrArg Prod.fst met)
  exact ⟨time, known, rfl, rfl⟩

/--
A host lets every test pass that it filled, once the suite was saved and read again.

The suite may come from any text, in either format, whose blocks hold no brackets, under separators
that mean nothing in prose. The answers of the host depend on the question alone, and what its
programs print may stand between brackets. There are as many tests as before. A test that was filled
suits a run that checks tests, and passes in it; one that failed is unfilled and is left as it was
read.
-/
theorem passes_after_filling (registry : Registry) (separators : registry.InertSeparators)
    (options : ReadOptions) (raw : Text) (read : Suite.read registry options raw = .ok suite)
    (unbracketed : suite.Each Text.Unbracketed) (host : Host σ) (stateless : host.Stateless)
    (prints : host.Prints Text.Plain) (limit : Option Duration) (invocation : Invocation)
    (state : σ)
    (ran : suite.run host ⟨.fill, none, limit⟩ invocation state = (.ok (filling, filled), next)) :
    ∃ reloaded, Suite.read registry {} filled.render = .ok reloaded ∧
      reloaded.tests.length = suite.tests.length ∧
      ∀ start, ∃ testing tested final,
        reloaded.run host ⟨.test, none, limit⟩ invocation start = (.ok (testing, tested), final) ∧
        ∀ place former again, suite.tests[place]? = some former → former.filled = false →
          reloaded.tests[place]? = some again →
            (¬ filling.FailedAt place → Mode.test.suits again = true ∧ ¬ testing.FailedAt place ∧
              ∃ test, tested.tests[place]? = some test ∧ test.lastRunFailed = some false) ∧
            (filling.FailedAt place → Mode.test.suits again = false ∧
              tested.tests[place]? = some again) := by
  obtain rfl := registry_of_read read
  obtain ⟨time, known, rfl, rfl⟩ := eq_of_run stateless ran
  -- The suite can be written, as only outputs of the host were adopted.
  have legible := (legible_of_read read unbracketed).of_run ran fun place test output newly =>
    captured_of_prints prints ran newly
  obtain ⟨reloaded, reads, back⟩ := legible.read_back separators
  refine ⟨reloaded, reads, by simp [back.tests], fun start => ?_⟩
  -- The second run knows the same limit, and meets every test.
  obtain ⟨final, checked⟩ :=
    run_of_stateless stateless .test invocation (back.timeout ▸ known) start
  refine ⟨_, _, final, checked, fun place former again before unfilled found => ?_⟩
  -- The test that is found was read back in place of the former one.
  have made := (legible_of_read read unbracketed).madeTests former (List.mem_of_getElem? before)
  have same : (former.result host suite.registry .fill invocation time state).2.reread
      suite.registry (Test.titleAt place) = again := by
    rw [back.tests] at found
    simpa [List.getElem?_mapIdx, before] using found
  have outcomes := Test.result_reread made stateless unfilled same start
  rw [Run.failedAt_ofResults (by rw [List.getElem?_map, before, Option.map_some]),
    Run.failedAt_ofResults (by rw [List.getElem?_map, found, Option.map_some]), back.registry]
  rcases outcomes with ⟨passed, filled, output, result⟩ | ⟨failure, failed, stays, result⟩
  · simp [passed, result, Mode.suits, filled, found, Test.recordRun]
  · simp [failed, result, Mode.suits, stays, found]

/-- Of two tests without an expected output, the first fails in its preparation. -/
theorem passes_after_filling_second :
    let host : Host Unit :=
      { shell := fun line state => (.ok (if line = "false".toList then 1 else 0), state)
        execute := fun _ _ _ _ state => (.ok (.completed "3\n".toList), state) }
    let raw : Text := "INPUT /\x7b1\x7d/ STARTUP /\x7bfalse\x7d/ INPUT /\x7b2\x7d/".toList
    ∃ suite filling filled next, Suite.read .builtin {} raw = .ok suite ∧
      suite.run host ⟨.fill, none, some ⟨0⟩⟩ ⟨[], []⟩ () = (.ok (filling, filled), next) ∧
      filling.FailedAt 0 ∧ ¬ filling.FailedAt 1 ∧
      ∃ reloaded testing tested final, Suite.read .builtin {} filled.render = .ok reloaded ∧
        reloaded.run host ⟨.test, none, some ⟨0⟩⟩ ⟨[], []⟩ () = (.ok (testing, tested), final) ∧
        ¬ testing.FailedAt 1 := by
  intro host raw
  have balanced : Block.Balanced raw := ⟨by decide +kernel, by decide +kernel⟩
  have read := @read_of_balanced .builtin {} raw rfl balanced
  have unbracketed := each_ofBlocks .builtin (by decide +kernel :
    ∀ block ∈ Block.ranked (Text.normalizeLines raw), block.content.Unbracketed)
  -- The program prints a plain text whatever it is given.
  have prints : host.Prints Text.Plain := by
    rintro _ _ _ _ _ _ ⟨⟩
    decide
  have stateless : host.Stateless := ⟨fun _ _ _ => rfl, fun _ _ _ _ _ _ => rfl⟩
  let suite := ofBlocks .builtin (Block.ranked (Text.normalizeLines raw))
  let results := suite.tests.map fun test => test.result host .builtin .fill ⟨[], []⟩ ⟨0⟩ ()
  have known : (some ⟨0⟩ : Option Duration).elim suite.timeout .ok = .ok ⟨0⟩ := rfl
  obtain ⟨next, ran⟩ := run_of_stateless stateless .fill ⟨[], []⟩ known ()
  -- Only the first test fails when the suite is filled.
  have failures : (Run.ofResults .fill results).failures = [(0, .startup "false".toList)] := by
    decide +kernel
  have first : (Run.ofResults .fill results).FailedAt 0 :=
    ⟨.startup "false".toList, failures ▸ List.mem_singleton_self _⟩
  have second : ¬ (Run.ofResults .fill results).FailedAt 1 := by
    rintro ⟨failure, member⟩
    simp [failures] at member
  -- The first test fails in its preparation and stays unfilled; the second one is filled and then
  -- passes.
  obtain ⟨reloaded, reads, same, passes⟩ := passes_after_filling .builtin
    Registry.inertSeparators_builtin {} raw read unbracketed host stateless prints (some ⟨0⟩)
    ⟨[], []⟩ () ran
  obtain ⟨testing, tested, final, checked, each⟩ := passes ()
  have inside : 1 < suite.tests.length := by decide +kernel
  -- Neither test was filled before.
  have unfilled : ∀ test ∈ suite.tests, test.filled = false := by decide +kernel
  obtain ⟨former, before⟩ : ∃ former, suite.tests[1]? = some former :=
    ⟨_, List.getElem?_eq_getElem inside⟩
  obtain ⟨again, found⟩ : ∃ again, reloaded.tests[1]? = some again :=
    ⟨_, List.getElem?_eq_getElem (lt_of_lt_of_eq inside same.symm)⟩
  obtain ⟨-, stays, -⟩ := (each 1 former again before
    (unfilled former (List.mem_of_getElem? before)) found).1 second
  exact ⟨suite, _, _, next, read, ran, first, second, reloaded, testing, tested, final, reads,
    checked, stays⟩

end Suite

end TaggedTests
