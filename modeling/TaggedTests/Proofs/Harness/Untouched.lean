import TaggedTests.Harness
import TaggedTests.Proofs.Suite.Lossless
import TaggedTests.Proofs.Suite.Outcomes

/-! Filled files are left alone by a run that fills tests, if the file has brackets. -/

namespace TaggedTests

/-- Sections can always be read if no expected output is asked for, and then none has one. -/
theorem Sections.exists_readSections_unfilled (registry : Registry) (start : Nat)
    (parts : List Text) :
    ∃ tests, readSections registry false start parts = .ok tests ∧
      ∀ test ∈ tests, test.filled = false := by
  -- A section is refused only where an expected output is asked for.
  cases result : readSections registry false start parts with
  | error error => exact absurd (readSections_eq_error_iff.1 result).1 (by decide)
  | ok tests => exact ⟨tests, rfl, (retold_of_readSections result).filled⟩

namespace Suite

/-- Tests that do not suit the mode are passed over without a call. -/
theorem runTests_of_unsuited {σ : Type} (host : Host σ) (registry : Registry) {mode : Mode}
    (invocation : Invocation) (limit : Duration) (allowed : Option Nat) {tests : List Test}
    (unsuited : ∀ test ∈ tests, mode.suits test = false) (state : σ) :
    runTests host registry mode invocation limit allowed tests state =
      (Results.untouched tests, state) := by
  induction tests with
  | nil => rfl
  | cons test rest ih =>
    -- The first test is passed over, and the state is still the same for the others.
    obtain ⟨own, others⟩ := List.forall_mem_cons.1 unsuited
    rw [runTests, ih others]
    simp [own, Results.untouched]

/-- Nothing comes of tests that are not run. -/
theorem ofResults_untouched (mode : Mode) (tests : List Test) :
    Run.ofResults mode (Results.untouched tests) = ⟨⟨mode, 0, 0, 0⟩, []⟩ := by
  -- No result is a failure, wherever the count of places starts, and none is a pass.
  have none (start : Nat) : Results.failuresFrom start (Results.untouched tests) = [] := by
    induction tests generalizing start with
    | nil => rfl
    | cons test rest ih => exact ih (start + 1)
  simp only [Run.ofResults, none]
  simp [Results.untouched, List.countP_map, Function.comp_def, Results.isPass, Results.failure?]

/--
A run that fills tests leaves a suite alone.

No test suits it. A run gives counts of zero and the suite as it was, if a limit is known, and asks
the host for nothing. A harness writes nothing after it.
-/
structure LeftAlone (suite : Suite) : Prop where
  unsuited : ∀ test ∈ suite.tests, Mode.fill.suits test = false
  uncalled : ∀ {σ : Type} (host : Host σ) (breakFail : Option Nat) (limit : Option Duration)
    (invocation : Invocation) (state : σ),
    suite.run host ⟨.fill, breakFail, limit⟩ invocation state =
      ((limit.elim suite.timeout .ok).map fun _ => (⟨⟨.fill, 0, 0, 0⟩, []⟩, suite), state)
  unwritten : ∀ {σ : Type} (workspace : Workspace σ) (settings : Harness.Settings) (path : Text)
    (invocation : Invocation) (state : σ),
    (Harness.test workspace settings .fill path suite invocation state).2 = state

/-- A suite whose tests are all filled is left alone. -/
theorem leftAlone_of_filled {suite : Suite} (filled : ∀ test ∈ suite.tests, test.filled = true) :
    suite.LeftAlone := by
  have unsuited : ∀ test ∈ suite.tests, Mode.fill.suits test = false :=
    fun test member => by simp [Mode.suits, filled test member]
  have uncalled : ∀ {σ : Type} (host : Host σ) (breakFail : Option Nat) (limit : Option Duration)
      (invocation : Invocation) (state : σ),
      suite.run host ⟨.fill, breakFail, limit⟩ invocation state =
        ((limit.elim suite.timeout .ok).map fun _ => (⟨⟨.fill, 0, 0, 0⟩, []⟩, suite), state) := by
    intro σ host breakFail limit invocation state
    unfold Suite.run
    -- Without a limit there is no run, and with one there is a run without a test.
    cases known : limit.elim suite.timeout .ok with
    | error error => rfl
    | ok time =>
      simp only [runTests_of_unsuited host suite.registry invocation time _ unsuited,
        ofResults_untouched]
      simp [Results.untouched, Except.map, Function.comp_def]
  refine ⟨unsuited, uncalled, fun workspace settings path invocation state => ?_⟩
  -- Nothing was filled, and so nothing is saved.
  rw [Harness.test, uncalled]
  cases settings.limit.elim suite.timeout .ok <;> rfl

/--
A harness that fills the tests of a text only makes the program ready.

Whatever the workspace, reading the file, making a directory to build in and building are all that
changes its state. The program is not run then, and no file is written.
-/
def OnlyBuilt (registry : Registry) (raw : Text) (suite : Suite) : Prop :=
  ∀ {σ : Type} (workspace : Workspace σ) (settings : Harness.Settings) (case : Harness.Case)
    (program : Text) (state next : σ), settings.registry = registry → case.program = .ok program →
      workspace.readText case.path state = (.ok raw, next) →
      (Harness.runCase workspace settings .fill case state).2 =
        match workspace.temporary next with
        | (.error _, failed) => failed
        | (.ok directory, ready) =>
          (suite.build workspace program settings.language directory ready).2

variable {registry : Registry} {raw : Text} {suite : Suite}

/-- A text is only built for if the suite that is read from it is left alone. -/
theorem LeftAlone.onlyBuilt (alone : suite.LeftAlone)
    (read : Suite.read registry ⟨.bracketed, false⟩ raw = .ok suite) :
    suite.OnlyBuilt registry raw := by
  rintro σ workspace settings case program state next rfl known text
  have mode : decide (Mode.fill = .test) = false := rfl
  simp only [Harness.runCase, known, text, mode, read, Harness.buildAndTest]
  -- Without a directory to build in there is nothing to test.
  rcases workspace.temporary next with ⟨_ | directory, ready⟩
  · rfl
  dsimp only
  -- A program that was built is tested, and that changes nothing more.
  generalize suite.build workspace program settings.language _ _ = built
  obtain ⟨⟨_ | invocation, compiler⟩, tested⟩ := built
  · rfl
  · exact alone.unwritten workspace settings case.path invocation tested

/--
A run that fills tests leaves a file alone in which every test is filled, if the file has brackets.

Without an expected output being asked for, the text can still be read and gives as many tests. With
bracketed blocks, or without a test, all of it is left alone. Sections of the older format are then
read as input with their expected output, so that every test of theirs suits the run.
-/
theorem filling_leaves_filled_alone (read : Suite.read registry {} raw = .ok suite)
    (filled : ∀ test ∈ suite.tests, test.filled = true) :
    ∃ fresh, Suite.read registry ⟨.bracketed, false⟩ raw = .ok fresh ∧
      fresh.tests.length = suite.tests.length ∧
      (suite.format = .bracketed ∨ suite.tests = [] →
        fresh.LeftAlone ∧ fresh.OnlyBuilt registry raw) ∧
      (suite.format = .legacy → ∀ test ∈ fresh.tests, Mode.fill.suits test = true) := by
  rcases read_cases read with ⟨-, balanced, rfl⟩ | ⟨equal, fallback, legacy⟩
  · -- What is asked for makes no difference to bracketed blocks.
    have same := @read_of_balanced registry ⟨.bracketed, false⟩ raw rfl balanced
    have alone := leftAlone_of_filled filled
    exact ⟨_, same, rfl, fun _ => ⟨alone, alone.onlyBuilt same⟩, fun other => by cases other⟩
  · obtain ⟨tests, sections, rfl⟩ := readLegacy_eq_ok_iff.1 legacy
    obtain ⟨others, unasked, unfilled⟩ := Sections.exists_readSections_unfilled registry 0
      (Sections.ofText (Text.normalizeLines raw))
    have many : others.length = tests.length :=
      (Sections.length_readSections unasked).trans (Sections.length_readSections sections).symm
    have again := (read_of_fallback equal (fallback.imp_right (by simp))).trans
      (readLegacy_eq_ok_iff.2 ⟨others, unasked, rfl⟩ :
        readLegacy registry ⟨.bracketed, false⟩ (Text.normalizeLines raw) = _)
    refine ⟨_, again, many, fun empty => ?_, fun _ test member => ?_⟩
    · -- There is no test then, in either way of reading.
      obtain rfl : tests = [] := by simpa using empty
      obtain rfl : others = [] := List.length_eq_zero_iff.1 many
      have alone := @leftAlone_of_filled
        ⟨registry, .empty, [], if Format.bracketed = .bracketed then [.oldFormat] else [], .legacy⟩
        (by simp)
      exact ⟨alone, alone.onlyBuilt again⟩
    · simp [Mode.suits, unfilled test member]

/-- A file with one bracketed test that has what it expects. -/
theorem filling_leaves_filled_alone_single :
    let raw : Text := "INPUT /\x7b1\x7d/ OUTPUT /\x7b1\x7d/".toList
    ∃ suite, Suite.read .builtin {} raw = .ok suite ∧ suite.tests.length = 1 ∧
      (∀ test ∈ suite.tests, test.filled = true) ∧
      ∃ fresh, Suite.read .builtin ⟨.bracketed, false⟩ raw = .ok fresh ∧
        fresh.tests.length = 1 ∧ fresh.LeftAlone ∧ fresh.OnlyBuilt .builtin raw := by
  intro raw
  -- The text has balanced brackets, so that it is read as blocks.
  have balanced : Block.Balanced raw := ⟨by decide +kernel, by decide +kernel⟩
  have read := @read_of_balanced .builtin {} raw rfl balanced
  have single : (ofBlocks .builtin (Block.ranked (Text.normalizeLines raw))).tests.length = 1 := by
    decide +kernel
  have filled : ∀ test ∈ (ofBlocks .builtin (Block.ranked (Text.normalizeLines raw))).tests,
      test.filled = true := by decide +kernel
  obtain ⟨fresh, again, many, alone, -⟩ := filling_leaves_filled_alone read filled
  exact ⟨_, read, single, filled, fresh, again, many.trans single, alone (Or.inl rfl)⟩

/-- A filled section of the older format is filled once more, and its file is written. -/
theorem filling_changes_older_format :
    let raw : Text := "[INPUT]\n1\n[OUTPUT]\n1\n".toList
    ∃ suite fresh, Suite.read .builtin {} raw = .ok suite ∧
      (∀ test ∈ suite.tests, test.filled = true) ∧
      Suite.read .builtin ⟨.bracketed, false⟩ raw = .ok fresh ∧
      ¬ fresh.LeftAlone ∧ ¬ fresh.OnlyBuilt .builtin raw := by
  intro raw
  have equal : (Block.opens raw).length = (Block.closes raw).length := by decide +kernel
  have none : Block.opens raw = [] := by decide +kernel
  have lines : Text.normalizeLines raw = raw := by decide +kernel
  -- There is one section, and the marker of the expected output is part of it.
  have one : Sections.ofText raw = ["1\n[OUTPUT]\n1\n".toList] :=
    Sections.ofText_of_single (by decide +kernel : _ = some ([], _)) (by decide +kernel)
  have sections (expectFilled : Bool) (test : Test)
      (read : Sections.readSection .builtin expectFilled 0 "1\n[OUTPUT]\n1\n".toList = .ok test) :
      Suite.read .builtin ⟨.bracketed, expectFilled⟩ raw =
        .ok ⟨.builtin, .empty, [test], [.oldFormat], .legacy⟩ := by
    rw [read_of_fallback equal (Or.inl none), lines, readLegacy_eq_ok_iff]
    refine ⟨[test], ?_, rfl⟩
    rw [Sections.read, one, Sections.readSections_cons_eq_ok_iff]
    exact ⟨test, [], read, rfl, rfl⟩
  -- Without its output being asked for, the section is read as input alone.
  have again := sections false _ rfl
  refine ⟨_, _, sections true _ rfl, by decide +kernel, again, fun alone => ?_, fun built => ?_⟩
  · exact absurd alone.unsuited (by decide +kernel)
  · -- In a workspace that remembers whether something was written, something was.
    let workspace : Workspace Bool :=
      { shell := fun _ state => (.ok 0, state)
        execute := fun _ _ _ _ state => (.ok (.completed []), state)
        temporary := fun state => (.ok [], state)
        pathExists := fun _ _ => true
        entries := fun _ _ => .none
        readText := fun _ state => (.ok raw, state)
        writeText := fun _ _ _ => (.ok (), true)
        compile := fun _ _ state => (.none, state) }
    have kept := built workspace { limit := some ⟨0⟩ } ⟨[], .ok []⟩ [] false false rfl rfl rfl
    have mode : decide (Mode.fill = .test) = false := rfl
    simp only [Harness.runCase, mode, workspace, again] at kept
    exact absurd kept (by decide +kernel)

end Suite

end TaggedTests
