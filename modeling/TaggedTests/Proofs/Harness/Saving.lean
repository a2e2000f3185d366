import TaggedTests.Harness
import TaggedTests.Proofs.Suite.Saving
import TaggedTests.Proofs.Workspace.Accesses

/-!
When a harness writes a test file again, and what it leaves alone.

A file is touched in the end only, and only for tests that were filled. Whatever ends a case before
that leaves the file as it was.
-/

namespace TaggedTests

namespace Suite

variable {σ : Type} {host : Host σ} {suite after : Suite} {breakFail : Option Nat}
  {limit : Option Duration} {invocation : Invocation} {state final : σ} {run : Run}

/-- A test is filled by a run if it has no expected output and passes. -/
theorem filled_result_iff {registry : Registry} {time : Duration} {test : Test}
    (unfilled : test.filled = false) :
    (test.result host registry .fill invocation time state).2.filled = true ↔
      Results.isPass (test.result host registry .fill invocation time state) = true := by
  have suits : Mode.fill.suits test = true := by simp [Mode.suits, unfilled]
  have filled := Test.filled_settle test (test.attempt host invocation time state).1
  -- A test is filled after it has passed only; a failing attempt records its output elsewhere.
  rcases settled : test.settle (test.attempt host invocation time state).1 with
    ⟨_ | failure, left⟩ <;> rw [settled] at filled
  · simp [Test.result_of_passed suits settled, Results.isPass, Mode.afterPass, Test.fill]
  · have still : left.filled = false := filled.trans unfilled
    simp [Test.result_of_failed suits settled, Results.isPass, still]

/-- A run that fills tests passes some exactly if it fills some. -/
theorem passed_ne_zero_iff
    (ran : suite.run host ⟨.fill, breakFail, limit⟩ invocation state = (.ok (run, after), final)) :
    run.summary.passed ≠ 0 ↔ ∃ place test, suite.NewlyFilled after place test := by
  obtain ⟨time, results, -, run, rfl, rfl⟩ := run_eq_ok_iff.1 ran
  have each := forall₂_runTests host suite.registry .fill invocation time
    (breakFail.filter (0 < ·)) suite.tests state
  rw [run] at each
  have counted : (Run.ofResults .fill results).summary.passed ≠ 0 ↔
      ∃ result ∈ results, Results.isPass result = true := by
    rw [← List.countP_pos_iff, Nat.pos_iff_ne_zero]
    rfl
  rw [counted]
  constructor
  · -- A test that passed was met by the run, and it had to be filled.
    rintro ⟨result, member, pass⟩
    obtain ⟨place, found⟩ := List.mem_iff_getElem?.1 member
    obtain ⟨test, before, rfl | ⟨met, rfl⟩⟩ := exists_getElem?_of_forall₂ each found
    · simp [Results.isPass] at pass
    · have unfilled : test.filled = false := by
        by_contra filled
        have unsuited : Mode.fill.suits test = false := by simpa [Mode.suits] using filled
        simp [Test.result_of_unsuited unsuited, Results.isPass] at pass
      exact ⟨place, _, test, before, unfilled, by simp [found], (filled_result_iff unfilled).2 pass⟩
  · -- A test that was filled is not as it was, and so it was met by the run.
    rintro ⟨place, _, test, before, unfilled, found, filled⟩
    rw [List.getElem?_map] at found
    obtain ⟨result, there, rfl⟩ := Option.map_eq_some_iff.1 found
    refine ⟨result, List.mem_of_getElem? there, ?_⟩
    rcases related_of_forall₂ each before there with rfl | ⟨met, rfl⟩
    · simp [unfilled] at filled
    · exact (filled_result_iff unfilled).1 filled

end Suite

namespace Harness

variable {σ : Type} {workspace : Workspace σ} {settings : Settings} {mode : Mode} {case : Case}
  {start record : List Access × σ} {state : σ} {suite after : Suite} {run : Run}

/-- The tests of a case are run to the end: a program is selected for its file, and the text that
is read from the file is that of a suite which is run to the end. -/
inductive Completed (workspace : Workspace σ) (settings : Settings) (mode : Mode) (case : Case)
    (state : σ) (suite : Suite) (run : Run) (after : Suite) : Prop
  | intro {program text : Text} {loaded final : σ}
    (selected : case.program = .ok program)
    (read : workspace.readText case.path state = (.ok text, loaded))
    (parsed : Suite.read settings.registry ⟨.bracketed, mode = .test⟩ text = .ok suite)
    (completes : suite.Completes workspace program settings.language id
      ⟨mode, none, settings.limit⟩ loaded run after final)

/-- What a case writes in the end: the tests after a run that filled some of them are put into
their file, and otherwise nothing is written. -/
inductive Saves (workspace : Workspace σ) (settings : Settings) (mode : Mode) (case : Case)
    (state : σ) : List Access → Prop
  | saved {suite : Suite} {run : Run} {after : Suite}
    (completed : Completed workspace settings mode case state suite run after)
    (fills : mode = .fill) (passed : run.summary.passed ≠ 0) :
    Saves workspace settings mode case state [.write case.path after.render]
  | spared (unfilled : ∀ suite run after,
      Completed workspace settings mode case state suite run after → mode = .fill →
        run.summary.passed = 0) :
    Saves workspace settings mode case state []

/-- What is written after a run. -/
def saving (mode : Mode) (path : Text) (run : Run) (after : Suite) : List Access :=
  if mode = .fill ∧ run.summary.passed ≠ 0 then [.write path after.render] else []

/-- Nothing else is written to save the tests after a run. -/
theorem logged_save (logged : workspace.Logged start [] record state) (mode : Mode) (path : Text)
    (run : Run) (after : Suite) :
    Agree (workspace.Logged start (saving mode path run after))
      (save workspace.recorded mode path run after record)
      (save workspace mode path run after state) := by
  unfold save saving
  -- Only if something was filled there is a last access.
  split
  · have written := logged.write path after.render
    exact ⟨by simp only [written.answer], written.related⟩
  · exact ⟨rfl, logged⟩

section

variable {invocation : Invocation} {next : σ}

/-- Without a known limit, nothing is run or written. -/
theorem logged_test_of_error (logged : workspace.Logged start [] record state) (path : Text)
    {error : FormatError}
    (ran : suite.run workspace.toHost ⟨mode, none, settings.limit⟩ invocation state =
      (.error error, next)) :
    Agree (workspace.Logged start [])
      (test workspace.recorded settings mode path suite invocation record)
      (test workspace settings mode path suite invocation state) := by
  obtain ⟨further, twin, kept⟩ := (logged.runSuite suite _ _).exists_left ran
  simpa only [test, ran, twin] using ⟨rfl, kept⟩

/-- After a run, the tests are saved. -/
theorem logged_test_of_ok (logged : workspace.Logged start [] record state) (path : Text)
    (ran : suite.run workspace.toHost ⟨mode, none, settings.limit⟩ invocation state =
      (.ok (run, after), next)) :
    Agree (workspace.Logged start (saving mode path run after))
      (test workspace.recorded settings mode path suite invocation record)
      (test workspace settings mode path suite invocation state) := by
  obtain ⟨further, twin, kept⟩ := (logged.runSuite suite _ _).exists_left ran
  -- The run leaves related states, from which the tests are saved alike.
  have saved := logged_save kept mode path run after
  simp only [test, ran, twin]
  exact ⟨by simp only [saved.answer], saved.related⟩

end

/-- A case that is run to the end comes to that end with the text that its file holds. -/
theorem Completed.completes {suite' : Suite} {program text : Text} {loaded : σ}
    (completed : Completed workspace settings mode case state suite' run after)
    (selected : case.program = .ok program)
    (read : workspace.readText case.path state = (.ok text, loaded))
    (parsed : Suite.read settings.registry ⟨.bracketed, mode = .test⟩ text = .ok suite) :
    ∃ final, suite.Completes workspace program settings.language id ⟨mode, none, settings.limit⟩
      loaded run after final := by
  obtain ⟨selected', read', parsed', completes⟩ := completed
  -- Program, text and suite are the ones that are known, as each has a single value.
  obtain rfl := Except.ok.inj (selected.symm.trans selected')
  cases read.symm.trans read'
  obtain rfl := Except.ok.inj (parsed.symm.trans parsed')
  exact ⟨_, completes⟩

/-- A case comes to one end at most. -/
theorem Completed.unique {suite' after' : Suite} {run' : Run}
    (first : Completed workspace settings mode case state suite run after)
    (second : Completed workspace settings mode case state suite' run' after') :
    run = run' ∧ after = after' := by
  obtain ⟨selected, read, parsed, completes⟩ := first
  -- With the same text both are ends of one suite, which has one end at most.
  obtain ⟨_, completes'⟩ := second.completes selected read parsed
  exact ⟨(completes.unique completes').1, (completes.unique completes').2.1⟩

/-- What is written after the run of a case that is run to the end. -/
theorem Completed.saves (completed : Completed workspace settings mode case state suite run after) :
    Saves workspace settings mode case state (saving mode case.path run after) := by
  unfold saving
  -- Something was filled and is written, or nothing was filled in the only end there is.
  split
  · next filled => exact .saved completed filled.1 filled.2
  · next unfilled =>
    refine .spared fun suite' run' after' other fills => ?_
    obtain ⟨rfl, rfl⟩ := completed.unique other
    by_contra passed
    exact unfilled ⟨fills, passed⟩

/-- Nothing is written for a case that is not run to the end. -/
theorem saves_of_not_completed (incomplete : ∀ suite run after,
    ¬ Completed workspace settings mode case state suite run after) :
    Saves workspace settings mode case state [] :=
  .spared fun suite run after completed => absurd completed (incomplete suite run after)

/-- A suite is built for and tested, and the tests are saved as the case demands. -/
theorem exists_saves_of_suite {program text : Text} {loaded : σ}
    (selected : case.program = .ok program)
    (read : workspace.readText case.path state = (.ok text, loaded))
    (parsed : Suite.read settings.registry ⟨.bracketed, mode = .test⟩ text = .ok suite)
    (logged : workspace.Logged start [] record loaded) :
    ∃ last, Saves workspace settings mode case state last ∧
      Agree (workspace.Logged start last)
        (buildAndTest workspace.recorded settings mode case.path program suite record)
        (buildAndTest workspace settings mode case.path program suite loaded) := by
  -- What does not come to its end saves nothing.
  have spared (incomplete : ∀ run after final, ¬ suite.Completes workspace program
        settings.language id ⟨mode, none, settings.limit⟩ loaded run after final) :
      Saves workspace settings mode case state [] :=
    saves_of_not_completed fun suite' run after completed => by
      obtain ⟨final, completes⟩ := completed.completes selected read parsed
      exact incomplete run after final completes
  cases logged.reaches suite program settings.language id ⟨mode, none, settings.limit⟩ with
  | undirected directed recorded left incomplete =>
    refine ⟨[], spared incomplete, ?_⟩
    simpa only [buildAndTest, directed, recorded] using ⟨rfl, left⟩
  | unready directed recorded built rebuilt left incomplete =>
    refine ⟨[], spared incomplete, ?_⟩
    simpa only [buildAndTest, directed, recorded, built, rebuilt] using ⟨rfl, left⟩
  | unlimited directed recorded built rebuilt left ran incomplete =>
    rw [id] at ran
    have tested := logged_test_of_error left case.path ran
    refine ⟨[], spared incomplete, ?_⟩
    simp only [buildAndTest, directed, recorded, built, rebuilt]
    exact ⟨by simp only [tested.answer], tested.related⟩
  | complete directed recorded built rebuilt left ran =>
    -- The tests are saved after the run, if it has filled any.
    rw [id] at ran
    have tested := logged_test_of_ok left case.path ran
    refine ⟨_, Completed.saves ⟨selected, read, parsed, directed, built, ran⟩, ?_⟩
    simp only [buildAndTest, directed, recorded, built, rebuilt]
    exact ⟨by simp only [tested.answer], tested.related⟩

/-- A case is run on a recorded workspace as it is without the record, and it writes in the end
what it has to save. -/
theorem exists_saves (workspace : Workspace σ) (settings : Settings) (mode : Mode) (case : Case)
    (start : List Access × σ) :
    ∃ last, Saves workspace settings mode case start.2 last ∧
      Agree (workspace.Logged start last)
        (runCase workspace.recorded settings mode case start)
        (runCase workspace settings mode case start.2) := by
  -- A case that is stopped before its program is built is not run to the end.
  cases selected : case.program with
  | error error =>
    refine ⟨[], saves_of_not_completed ?_, ?_⟩
    · rintro suite run after ⟨other, -, -, -⟩
      cases selected.symm.trans other
    · simpa only [runCase, selected] using ⟨rfl, workspace.logged_start start⟩
  | ok program =>
    -- The file is read alike, and what it holds decides whether there is a suite.
    have loaded := (workspace.logged_start start).readText case.path
    rcases read : workspace.readText case.path start.2 with ⟨_ | text, next⟩ <;>
      obtain ⟨further, twin, kept⟩ := loaded.exists_left read
    · refine ⟨[], saves_of_not_completed ?_, ?_⟩
      · rintro suite run after ⟨-, other, -, -⟩
        cases read.symm.trans other
      · simpa only [runCase, selected, read, twin] using ⟨rfl, kept⟩
    · cases parsed : Suite.read settings.registry ⟨.bracketed, mode = .test⟩ text with
      | error error =>
        refine ⟨[], saves_of_not_completed ?_, ?_⟩
        · rintro suite run after ⟨-, other, again, -⟩
          cases read.symm.trans other
          cases parsed.symm.trans again
        · simpa only [runCase, selected, read, twin, parsed] using ⟨rfl, kept⟩
      | ok suite =>
        simpa only [runCase, selected, read, twin, parsed] using
          exists_saves_of_suite selected read parsed kept

/--
A harness touches a test file only to save tests that it filled.

Whatever the workspace does and however a case ends, its accesses to the workspace can be recorded
without a difference to what comes of it. If the tests are run to the end, in the mode that fills
them, and some of them passed, then the file is written once, after all other accesses, with the
tests after the run. Otherwise no file of the user is written, and whatever hooks, programs and
compilers do not touch themselves, such as the content of the file, stays as it was. The tests that
passed in that mode are those that were filled.
-/
theorem runCase_saves (workspace : Workspace σ) (settings : Settings) (mode : Mode) (case : Case)
    (log : List Access) (state : σ) :
    ∃ last, Saves workspace settings mode case state last ∧
      Agree (workspace.Logged (log, state) last)
        (runCase workspace.recorded settings mode case (log, state))
        (runCase workspace settings mode case state) ∧
      (last = [] → ∀ {α : Type} (observe : σ → α), workspace.Spares observe →
        observe (runCase workspace settings mode case state).2 = observe state) ∧
      ∀ suite run after, Completed workspace settings mode case state suite run after →
        mode = .fill → (run.summary.passed ≠ 0 ↔
          ∃ place test, suite.NewlyFilled after place test) := by
  obtain ⟨last, saves, agree⟩ := exists_saves workspace settings mode case (log, state)
  refine ⟨last, saves, agree, fun nothing α observe spares => ?_, ?_⟩
  · -- Without a last access, all of them leave the files of the user alone.
    subst nothing
    exact agree.related.spared spares
  · -- The tests that pass a run that fills tests are those that it fills.
    rintro suite run after ⟨-, -, -, -, -, ran⟩ rfl
    exact Suite.passed_ne_zero_iff ran

/-- A file with one test is written again when the test is filled, and stays as it is when filled
tests are checked. -/
theorem runCase_saves_single :
    let workspace : Workspace Text :=
      { shell := fun _ state => (.ok 0, state)
        execute := fun _ _ stdin _ state => (.ok (.completed stdin), state)
        temporary := fun state => (.ok "tmp".toList, state)
        pathExists := fun _ _ => true
        entries := fun _ _ => none
        readText := fun _ state => (.ok state, state)
        writeText := fun path text state =>
          (.ok (), if path = "tests.txt".toList then text else state)
        compile := fun _ _ state => (none, state) }
    let settings : Settings := { limit := some ⟨0⟩ }
    let case : Case := ⟨"tests.txt".toList, .ok "./prog".toList⟩
    let text : Text := "INPUT /\x7b1\x7d/".toList
    (∃ suite run after, Completed workspace settings .fill case text suite run after ∧
      (runCase workspace settings .fill case text).2 = after.render) ∧
    (runCase workspace settings .test case text).2 = text := by
  intro workspace settings case text
  constructor
  · -- In fill mode the one test passes and the file is written.
    obtain ⟨last, saves, agree, -⟩ := runCase_saves workspace settings .fill case [] text
    have balanced : Block.Balanced text := ⟨by decide +kernel, by decide +kernel⟩
    have ends : Completed workspace settings .fill case text _ _ _ :=
      ⟨rfl, rfl, Suite.read_of_balanced rfl balanced, rfl, rfl, rfl⟩
    cases saves with
    | saved completed fills passed =>
      -- The file holds what was written last.
      obtain ⟨accesses, -, led, -⟩ := agree.related.grows
      refine ⟨_, _, _, completed, led.trans ?_⟩
      rw [Workspace.accessAll, List.foldl_append]
      rfl
    | spared unfilled =>
      -- The one test of the file passes.
      exact absurd (unfilled _ _ _ ends rfl) (by decide +kernel)
  · -- In test mode nothing is written to it.
    obtain ⟨last, saves, -, unchanged, -⟩ := runCase_saves workspace settings .test case [] text
    cases saves with
    | saved completed fills passed => cases fills
    | spared unfilled =>
      -- A main file has another name than the test file.
      refine unchanged rfl id fun access state aside => ?_
      cases access with
      | write path other =>
        obtain ⟨earlier, directory, language, made, rfl⟩ := aside
        cases made
        cases language <;> rfl
      | call call => cases call <;> rfl
      | _ => rfl

end Harness

end TaggedTests
