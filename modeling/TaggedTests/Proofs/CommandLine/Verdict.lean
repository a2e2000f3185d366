import TaggedTests.CommandLine
import TaggedTests.Proofs.Suite.CutOff
import TaggedTests.Proofs.Suite.Grouping
import TaggedTests.Proofs.Workspace.Accesses

/-!
The exit status of the command line, and when it writes the file for the tests after a run.

A run of the command line either stops at an obstacle, before any test file is written, or runs the
tests to the end. What comes of it then depends on the mode, on failures and on whether the file for
the tests after the run can be written.
-/

namespace TaggedTests

namespace CommandLine

variable {σ : Type} {workspace : Workspace σ} {options : Options} {state next final : σ}
  {start record : List Access × σ} {registry : Registry} {suite after : Suite} {run : Run}

/-- A registry is configured: it is the one at hand without a file of tags, and that of the file if
the file can be read and is valid. -/
inductive Configured (workspace : Workspace σ) (options : Options) (state : σ) :
    Registry → σ → Prop
  | builtin (without : options.tags = none) :
    Configured workspace options state .builtin state
  | file {path text : Text} {registry : Registry} {next : σ} (given : options.tags = some path)
    (read : workspace.readText path state = (.ok text, next))
    (valid : Registry.ofToml text = .ok registry) :
    Configured workspace options state registry next

/-- The tests are run to the end: a registry is configured, and the test file can be read and holds
a suite which is run to the end. -/
inductive Completed (workspace : Workspace σ) (options : Options) (state : σ) (run : Run)
    (after : Suite) (final : σ) : Prop
  | intro {registry : Registry} {suite : Suite} {text : Text} {configured loaded : σ}
    (tags : Configured workspace options state registry configured)
    (read : workspace.readText options.tests configured = (.ok text, loaded))
    (parsed : Suite.read registry ⟨options.format, options.mode = .test⟩ text = .ok suite)
    (completes : (prepared options suite).Completes workspace options.program options.language
      (launched options) (runOptions options) loaded run after final)

/-- The tests after a run can be put into the file that is asked for, if one is. -/
def Kept (workspace : Workspace σ) (options : Options) (after : Suite) (final : σ) : Prop :=
  ∀ path, options.output = some path → (workspace.writeText path after.render final).1 = .ok ()

/-- A run of the command line succeeds: the tests are run to the end and kept where this is asked
for, and none of those that were run failed, unless they were to be filled. -/
def Succeeds (workspace : Workspace σ) (options : Options) (state : σ) : Prop :=
  ∃ run after final, Completed workspace options state run after final ∧
    Kept workspace options after final ∧ (options.mode = .fill ∨ run.failures = [])

/-- With another number of failures after which to stop, the tests after the run can be put into the
file that is asked for exactly if they can with this one. -/
def KeptAlike (workspace : Workspace σ) (options : Options) (count : Option Nat) (state : σ) :
    Prop :=
  ∀ path, options.output = some path → ∀ run after final run' after' final',
    Completed workspace options state run after final →
    Completed workspace { options with breakFail := count } state run' after' final' →
    ((workspace.writeText path after.render final).1 = .ok () ↔
      (workspace.writeText path after'.render final').1 = .ok ())

/-- What the command line writes in the end: the tests after a run, if they are run to the end and a
file for them is asked for, and otherwise nothing. -/
inductive Saves (workspace : Workspace σ) (options : Options) (state : σ) : List Access → Prop
  | saved {run : Run} {after : Suite} {final : σ} {path : Text}
    (completed : Completed workspace options state run after final)
    (asked : options.output = some path) :
    Saves workspace options state [.write path after.render]
  | spared (unasked : ∀ run after final, Completed workspace options state run after final →
      options.output = none) :
    Saves workspace options state []

/-- A registry is configured exactly if the stage of configuration gives it. -/
theorem registryFor_eq_ok_iff :
    registryFor workspace options state = (.ok registry, next) ↔
      Configured workspace options state registry next := by
  constructor
  · -- Without a file of tags the registry is the one at hand; a file has to be read and to be
    -- valid.
    intro configured
    unfold registryFor at configured
    cases tags : options.tags with
    | none =>
      simp only [tags] at configured
      cases configured
      exact .builtin tags
    | some path =>
      rcases read : workspace.readText path state with ⟨_ | text, further⟩ <;>
        simp only [tags, read] at configured
      · cases configured
      · cases valid : Registry.ofToml text <;> rw [valid] at configured <;> cases configured
        exact .file tags read valid
  · rintro (without | ⟨given, read, valid⟩)
    · simp only [registryFor, without]
    · simp only [registryFor, given, read, valid]
      rfl

/-- The stage of the test file gives a suite exactly if the file can be read and holds it. -/
theorem suiteFor_eq_ok_iff :
    suiteFor workspace options registry state = (.ok suite, next) ↔
      ∃ text, workspace.readText options.tests state = (.ok text, next) ∧
        Suite.read registry ⟨options.format, options.mode = .test⟩ text = .ok suite := by
  unfold suiteFor
  rcases workspace.readText options.tests state with ⟨_ | text, further⟩
  · simp
  · -- A file that was read holds a suite or an error of the parser, of which only the first is an
    -- answer.
    cases parsed : Suite.read registry ⟨options.format, options.mode = .test⟩ text <;>
      simp [parsed, Except.mapError, and_comm]

/-- The tests are run to the end exactly if every stage leads on to the next. -/
theorem completed_iff :
    Completed workspace options state run after final ↔
      ∃ registry configured suite loaded,
        registryFor workspace options state = (.ok registry, configured) ∧
        suiteFor workspace options registry configured = (.ok suite, loaded) ∧
        (prepared options suite).Completes workspace options.program options.language
          (launched options) (runOptions options) loaded run after final := by
  constructor
  · -- What is known of each stage is that it gives its answer, one way and the other.
    rintro ⟨tags, read, parsed, completes⟩
    exact ⟨_, _, _, _, registryFor_eq_ok_iff.2 tags, suiteFor_eq_ok_iff.2 ⟨_, read, parsed⟩,
      completes⟩
  · rintro ⟨registry, configured, suite, loaded, tags, parsed, completes⟩
    obtain ⟨text, read, parsed⟩ := suiteFor_eq_ok_iff.1 parsed
    exact ⟨registryFor_eq_ok_iff.1 tags, read, parsed, completes⟩

/-- Tests that are run to the end are run with the suite that the stages give. -/
theorem Completed.completes {configured loaded : σ}
    (completed : Completed workspace options state run after final)
    (tags : registryFor workspace options state = (.ok registry, configured))
    (parsed : suiteFor workspace options registry configured = (.ok suite, loaded)) :
    (prepared options suite).Completes workspace options.program options.language
      (launched options) (runOptions options) loaded run after final := by
  obtain ⟨_, _, _, _, tags', parsed', completes⟩ := completed_iff.1 completed
  -- Each stage has a single answer, and so it is the one that is known.
  cases tags.symm.trans tags'
  cases parsed.symm.trans parsed'
  exact completes

/-- The tests are run to one end at most. -/
theorem Completed.unique {after' : Suite} {final' : σ} {run' : Run}
    (first : Completed workspace options state run after final)
    (second : Completed workspace options state run' after' final') :
    run = run' ∧ after = after' ∧ final = final' := by
  obtain ⟨registry, configured, suite, loaded, tags, parsed, completes⟩ := completed_iff.1 first
  exact completes.unique (second.completes tags parsed)

/-- What is written after a run. -/
def saving (options : Options) (after : Suite) : List Access :=
  (options.output.map fun path => .write path after.render).toList

/-- Nothing else is written to save the tests after a run. -/
theorem logged_save (logged : workspace.Logged start [] record state) (options : Options)
    (after : Suite) :
    Agree (workspace.Logged start (saving options after))
      (save workspace.recorded options after record) (save workspace options after state) := by
  -- The last access is to the file that is asked for; without one there is none.
  unfold save saving
  cases options.output with
  | none => exact ⟨rfl, logged⟩
  | some path =>
    have written := logged.write path after.render
    exact ⟨by simp only [written.answer], written.related⟩

/-- How a run of the command line ends: what it writes last, and its verdict. -/
inductive Ends (workspace : Workspace σ) (options : Options) (state : σ) :
    List Access → Except Obstacle Bool → Prop
  | completed {run : Run} {after : Suite} {final : σ}
    (completed : Completed workspace options state run after final) :
    Ends workspace options state (saving options after)
      ((save workspace options after final).1.map fun _ => isSuccess options.mode run)
  | stopped (obstacle : Obstacle)
    (incomplete : ∀ run after final, ¬ Completed workspace options state run after final) :
    Ends workspace options state [] (.error obstacle)

section

variable {invocation : Invocation}

/-- Without a known limit, nothing is run or written. -/
theorem logged_test_of_error (logged : workspace.Logged start [] record state) {error : FormatError}
    (ran : suite.run workspace.toHost (runOptions options) (launched options invocation) state =
      (.error error, next)) :
    Agree (workspace.Logged start []) (test workspace.recorded options suite invocation record)
      (test workspace options suite invocation state) := by
  obtain ⟨further, twin, kept⟩ := (logged.runSuite suite _ _).exists_left ran
  simpa only [test, ran, twin] using ⟨rfl, kept⟩

/-- After a run, the tests are saved. -/
theorem logged_test_of_ok (logged : workspace.Logged start [] record state)
    (ran : suite.run workspace.toHost (runOptions options) (launched options invocation) state =
      (.ok (run, after), next)) :
    Agree (workspace.Logged start (saving options after))
      (test workspace.recorded options suite invocation record)
      (test workspace options suite invocation state) := by
  obtain ⟨further, twin, kept⟩ := (logged.runSuite suite _ _).exists_left ran
  -- The run leaves related states, from which the tests are saved alike.
  have saved := logged_save kept options after
  simp only [test, ran, twin]
  exact ⟨by simp only [saved.answer], saved.related⟩

end

/-- A suite is built for and tested, and the run ends as its stages do. -/
theorem exists_ends_of_suite {configured loaded : σ}
    (tags : registryFor workspace options state = (.ok registry, configured))
    (parsed : suiteFor workspace options registry configured = (.ok suite, loaded))
    (logged : workspace.Logged start [] record loaded) :
    ∃ last, Ends workspace options state last
        (buildAndTest workspace options (prepared options suite) loaded).1.verdict ∧
      Agree (workspace.Logged start last)
        (buildAndTest workspace.recorded options (prepared options suite) record)
        (buildAndTest workspace options (prepared options suite) loaded) := by
  -- What does not come to its end has only an obstacle for a verdict.
  have stopped (incomplete : ∀ run after final, ¬ (prepared options suite).Completes workspace
        options.program options.language (launched options) (runOptions options) loaded run after
        final) (obstacle : Obstacle) : Ends workspace options state [] (.error obstacle) :=
    .stopped obstacle fun run after final completed =>
      incomplete run after final (completed.completes tags parsed)
  cases logged.reaches (prepared options suite) options.program options.language
    (launched options) (runOptions options) with
  | undirected directed recorded left incomplete =>
    simp only [buildAndTest, directed, recorded]
    exact ⟨[], stopped incomplete _, ⟨rfl, left⟩⟩
  | unready directed recorded built rebuilt left incomplete =>
    simp only [buildAndTest, directed, recorded, built, rebuilt]
    exact ⟨[], stopped incomplete _, ⟨rfl, left⟩⟩
  | unlimited directed recorded built rebuilt left ran incomplete =>
    have tested := logged_test_of_error left ran
    simp only [buildAndTest, directed, recorded, built, rebuilt]
    refine ⟨[], ?_, ⟨by simp only [tested.answer], tested.related⟩⟩
    simp only [test, ran]
    exact stopped incomplete _
  | complete directed recorded built rebuilt left ran =>
    -- The verdict is that of the run, and the tests are saved after it.
    have tested := logged_test_of_ok left ran
    simp only [buildAndTest, directed, recorded, built, rebuilt]
    refine ⟨_, ?_, ⟨by simp only [tested.answer], tested.related⟩⟩
    simp only [test, ran]
    exact .completed (completed_iff.2 ⟨_, _, _, _, tags, parsed, ⟨directed, built, ran⟩⟩)

/-- The configuration is read on a recorded workspace as without the record. -/
theorem logged_registryFor (logged : workspace.Logged start [] record state) (options : Options) :
    Agree (workspace.Logged start []) (registryFor workspace.recorded options record)
      (registryFor workspace options state) := by
  unfold registryFor
  cases options.tags with
  | none => exact ⟨rfl, logged⟩
  | some path =>
    -- The file is read alike, and what is read of it decides in the same way.
    have loaded := logged.readText path
    rcases read : workspace.readText path state with ⟨_ | text, further⟩ <;>
      obtain ⟨other, twin, kept⟩ := loaded.exists_left read <;>
      simpa only [read, twin] using ⟨rfl, kept⟩

/-- The test file is read on a recorded workspace as without the record. -/
theorem logged_suiteFor (logged : workspace.Logged start [] record state) (options : Options)
    (registry : Registry) :
    Agree (workspace.Logged start []) (suiteFor workspace.recorded options registry record)
      (suiteFor workspace options registry state) := by
  unfold suiteFor
  -- The file is read alike, and then parsed without another access.
  have loaded := logged.readText options.tests
  rcases read : workspace.readText options.tests state with ⟨_ | text, further⟩ <;>
    obtain ⟨other, twin, kept⟩ := loaded.exists_left read <;>
    simpa only [twin] using ⟨rfl, kept⟩

/-- The command line runs on a recorded workspace as it does without the record, and it comes to an
end. -/
theorem exists_ends (workspace : Workspace σ) (options : Options) (start : List Access × σ) :
    ∃ last, Ends workspace options start.2 last
        (CommandLine.run workspace options start.2).1.verdict ∧
      Agree (workspace.Logged start last) (CommandLine.run workspace.recorded options start)
        (CommandLine.run workspace options start.2) := by
  -- A run that is stopped before the program is built does not get to the end.
  have configured := logged_registryFor (workspace.logged_start start) options
  rcases tags : registryFor workspace options start.2 with ⟨_ | registry, next⟩ <;>
    obtain ⟨further, twin, kept⟩ := configured.exists_left tags
  · -- Without a registry nothing else is read.
    simp only [CommandLine.run, tags, twin]
    refine ⟨[], .stopped _ fun run after final completed => ?_, ⟨rfl, kept⟩⟩
    obtain ⟨_, _, _, _, other, -⟩ := completed_iff.1 completed
    cases tags.symm.trans other
  · have loaded := logged_suiteFor kept options registry
    rcases parsed : suiteFor workspace options registry next with ⟨_ | suite, ready⟩ <;>
      obtain ⟨other, pair, left⟩ := loaded.exists_left parsed
    · simp only [CommandLine.run, tags, twin, parsed, pair]
      -- A test file that cannot be read, or holds no suite, ends the run as well.
      refine ⟨[], .stopped _ fun run after final completed => ?_, ⟨rfl, left⟩⟩
      obtain ⟨_, _, _, _, again, failed, -⟩ := completed_iff.1 completed
      cases tags.symm.trans again
      cases parsed.symm.trans failed
    · obtain ⟨last, ends, agree⟩ := exists_ends_of_suite tags parsed left
      simp only [CommandLine.run, tags, twin, parsed, pair]
      exact ⟨last, ends, ⟨by simp only [agree.answer], agree.related⟩⟩

/-- What a run of the command line writes last is what it has to save. -/
theorem Ends.saves {last : List Access} {verdict : Except Obstacle Bool}
    (ends : Ends workspace options state last verdict) : Saves workspace options state last := by
  cases ends with
  | @completed run after final completed =>
    -- What was run to the end is saved where a file is asked for.
    cases asked : options.output with
    | none =>
      rw [saving, asked]
      exact .spared fun _ _ _ _ => asked
    | some path =>
      rw [saving, asked]
      exact .saved completed asked
  | stopped obstacle incomplete =>
    -- What was stopped is not saved at all.
    exact .spared fun run after final completed => absurd completed (incomplete run after final)

/-- The tests after a run can be kept exactly if they are saved without an obstacle. -/
theorem kept_iff : Kept workspace options after final ↔
    (save workspace options after final).1 = .ok () := by
  unfold Kept save
  -- Without a file nothing can go wrong; with one it is the writing that counts.
  cases options.output with
  | none => simp
  | some path =>
    rcases written : workspace.writeText path after.render final with ⟨_ | _, further⟩ <;>
      simp [written, Except.mapError]

/-- A run went well if its tests were filled or none of them failed. -/
theorem Completed.isSuccess_iff (completed : Completed workspace options state run after final) :
    isSuccess options.mode run = true ↔ options.mode = .fill ∨ run.failures = [] := by
  obtain ⟨-, -, -, ⟨-, -, ran⟩⟩ := completed
  simp [isSuccess, Suite.isOk_iff_of_run ran]

/-- The verdict is good exactly if the run succeeds. -/
theorem Ends.succeeds_iff {last : List Access} {verdict : Except Obstacle Bool}
    (ends : Ends workspace options state last verdict) :
    verdict = .ok true ↔ Succeeds workspace options state := by
  cases ends with
  | @completed run after final completed =>
    -- The verdict of a run to the end is good if the tests were saved and the run went well.
    have good : ((save workspace options after final).1.map fun _ => isSuccess options.mode run) =
        .ok true ↔ Kept workspace options after final ∧
          (options.mode = .fill ∨ run.failures = []) := by
      rw [kept_iff, ← completed.isSuccess_iff]
      rcases (save workspace options after final).1 with _ | _ <;> simp [Except.map]
    rw [good]
    constructor
    · exact fun ⟨kept, fine⟩ => ⟨run, after, final, completed, kept, fine⟩
    · rintro ⟨_, _, _, other, kept, fine⟩
      obtain ⟨rfl, rfl, rfl⟩ := completed.unique other
      exact ⟨kept, fine⟩
  | stopped obstacle incomplete =>
    -- A run that was stopped has no verdict, and it does not succeed.
    refine iff_of_false nofun ?_
    rintro ⟨run, after, final, completed, -⟩
    exact absurd completed (incomplete run after final)

/-- The exit status is zero exactly with a good verdict. -/
theorem Conclusion.exitCode_eq_zero_iff (conclusion : Conclusion) :
    conclusion.exitCode = 0 ↔ conclusion.verdict = .ok true := by
  unfold exitCode
  split <;> simp_all

/-- The exit status is zero or one. -/
theorem Conclusion.exitCode_le_one (conclusion : Conclusion) : conclusion.exitCode ≤ 1 := by
  unfold exitCode
  split <;> decide

/-- With another number of failures after which to stop, the tests are run to the end as well, and
to the same end if there are no failures. -/
theorem Completed.exists_breakFail (completed : Completed workspace options state run after final)
    (count : Option Nat) :
    ∃ run' after' final',
      Completed workspace { options with breakFail := count } state run' after' final' ∧
      (run.failures = [] → run' = run ∧ after' = after ∧ final' = final) := by
  obtain ⟨registry, configured, suite, loaded, tags, parsed, ⟨directed, built, ran⟩⟩ :=
    completed_iff.1 completed
  -- No stage before the run reads the number of failures, so they lead to the same suite.
  obtain ⟨run', after', final', again, same⟩ := Suite.exists_run_breakFail ran count
  exact ⟨run', after', final',
    completed_iff.2 ⟨registry, configured, suite, loaded, tags, parsed, ⟨directed, built, again⟩⟩,
    same⟩

/-- A run that succeeds does so with another number of failures after which to stop, if tests that
were filled can be kept alike. -/
theorem Succeeds.breakFail (succeeds : Succeeds workspace options state) (count : Option Nat)
    (alike : options.mode = .fill → KeptAlike workspace options count state) :
    Succeeds workspace { options with breakFail := count } state := by
  obtain ⟨run, after, final, completed, kept, fine⟩ := succeeds
  obtain ⟨run', after', final', other, same⟩ := completed.exists_breakFail count
  refine ⟨run', after', final', other, ?_⟩
  -- Tests that are filled never fail a run, and without a failure both runs are the same.
  rcases fine with fills | fine
  · exact ⟨fun path asked =>
      (alike fills path asked _ _ _ _ _ _ completed other).1 (kept path asked), Or.inl fills⟩
  · obtain ⟨rfl, rfl, rfl⟩ := same fine
    exact ⟨kept, Or.inr fine⟩

/-- The number of failures after which to stop makes no difference to whether a run succeeds, if
tests that were filled can be kept alike. -/
theorem succeeds_breakFail_iff (count : Option Nat)
    (alike : options.mode = .fill → KeptAlike workspace options count state) :
    Succeeds workspace { options with breakFail := count } state ↔
      Succeeds workspace options state :=
  -- The number is put back to the one of the options themselves, which are then unchanged.
  ⟨fun succeeds => succeeds.breakFail options.breakFail
      fun fills path asked _ _ _ _ _ _ one other =>
        (alike fills path asked _ _ _ _ _ _ other one).symm,
    fun succeeds => succeeds.breakFail count alike⟩

section

variable {args : List Text}

/-- With arguments that can be understood, the exit status is zero exactly if the run succeeds, and
one otherwise. -/
theorem status_iff
    (read : Options.read? (fun path => workspace.pathExists path state) args = some options) :
    ((perform workspace args state).1.2 = 0 ↔ Succeeds workspace options state) ∧
      (perform workspace args state).1.2 ≤ 1 := by
  obtain ⟨last, ends, -⟩ := exists_ends workspace options ([], state)
  -- A run of the command line comes to an end, and the end decides the verdict.
  simp only [perform, read]
  exact ⟨(Conclusion.exitCode_eq_zero_iff _).trans ends.succeeds_iff,
    Conclusion.exitCode_le_one _⟩

/--
The exit status tells whether everything went well, and only a run to the end writes its tests.

The status is zero exactly if the configuration and the test file can be read and are valid, a
directory for intermediate files can be made, the program is made ready to be run, a limit is known,
the tests after the run can be kept where this is asked for, and the tests are to be filled or none
that was run failed. Stopping after a number of failures makes no difference to the status when
filled tests are checked, whatever hooks and programs do. When tests are filled it makes one only
where their file can be written after one of the two runs alone. Nothing is written but the tests
after a run to the end: once, after all other accesses, into the file that is asked for. Where
nothing is written, whatever hooks, programs and compilers do not touch themselves stays as it was.
-/
theorem perform_verdict (workspace : Workspace σ) (args : List Text) (options : Options)
    (log : List Access) (state : σ)
    (read : Options.read? (fun path => workspace.pathExists path state) args = some options) :
    ((perform workspace args state).1.2 = 0 ↔ Succeeds workspace options state) ∧
    (perform workspace args state).1.2 ≤ 1 ∧
    (∀ count others, Options.read? (fun path => workspace.pathExists path state) others =
        some { options with breakFail := count } →
      (options.mode = .fill → KeptAlike workspace options count state) →
      (perform workspace others state).1.2 = (perform workspace args state).1.2) ∧
    ∃ last, Saves workspace options state last ∧
      Agree (workspace.Logged (log, state) last)
        (perform workspace.recorded args (log, state)) (perform workspace args state) ∧
      (last = [] → ∀ {α : Type} (observe : σ → α), workspace.Spares observe →
        observe (perform workspace args state).2 = observe state) := by
  obtain ⟨zero, most⟩ := status_iff read
  refine ⟨zero, most, fun count others again alike => ?_, ?_⟩
  · obtain ⟨zero', most'⟩ := status_iff again
    -- Both are zero or one, and they are zero alike.
    have same := zero'.trans ((succeeds_breakFail_iff count alike).trans zero.symm)
    omega
  · obtain ⟨last, ends, agree⟩ := exists_ends workspace options (log, state)
    have twin : Options.read? (fun path => workspace.recorded.pathExists path (log, state)) args =
        some options := read
    simp only [perform, read, twin]
    refine ⟨last, ends.saves, ⟨by simp only [agree.answer], agree.related⟩, ?_⟩
    intro nothing α observe spares
    subst nothing
    exact agree.related.spared spares

/-- A test that prints something else than expected: the status is one, whether the run stops there
or not, and the file that is asked for holds the tests after the run. -/
theorem perform_verdict_failing :
    let workspace : Workspace Text :=
      { shell := fun _ state => (.ok 0, state)
        execute := fun _ _ stdin _ state => (.ok (.completed stdin), state)
        temporary := fun state => (.ok "tmp".toList, state)
        pathExists := fun _ _ => true
        entries := fun _ _ => none
        readText := fun _ state => (.ok "INPUT /\x7b1\x7d/ OUTPUT /\x7b2\x7d/".toList, state)
        writeText := fun path text state =>
          (.ok (), if path = "out.txt".toList then text else state)
        compile := fun _ _ state => (none, state) }
    let args := ["-o".toList, "out.txt".toList, "--timeout".toList, "1s".toList, "./prog".toList]
    let options : Options :=
      { program := "./prog".toList, output := some "out.txt".toList, limit := some ⟨1000000000⟩ }
    Options.read? (fun _ => true) args = some options ∧ (perform workspace args []).1.2 = 1 ∧
      (perform workspace ("--break-fail=1".toList :: args) []).1.2 = 1 ∧
      ∃ run after final, Completed workspace options [] run after final ∧
        (perform workspace args []).2 = after.render := by
  intro workspace args options
  have read : Options.read? (fun _ => true) args = some options := by decide +kernel
  obtain ⟨zero, most, same, last, saves, agree, -⟩ := perform_verdict workspace args options [] []
    read
  have balanced : Block.Balanced "INPUT /\x7b1\x7d/ OUTPUT /\x7b2\x7d/".toList :=
    ⟨by decide +kernel, by decide +kernel⟩
  -- The file is read, and its one test is run to the end.
  have ends : Completed workspace options [] _ _ _ :=
    ⟨.builtin rfl, rfl, Suite.read_of_balanced rfl balanced, ⟨rfl, rfl, rfl⟩⟩
  have one : (perform workspace args []).1.2 = 1 := by
    -- The test fails in the only run there is.
    have fails : ¬ Succeeds workspace options [] := by
      rintro ⟨_, _, _, other, -, fills | fine⟩
      · cases fills
      · obtain ⟨rfl, -⟩ := ends.unique other
        exact absurd fine (by decide +kernel)
    have nonzero := mt zero.1 fails
    omega
  -- A run that stops at the first failure has the same status.
  refine ⟨read, one, (same (some 1) _ (by decide +kernel) (fun fills => by cases fills)).trans one,
    ?_⟩
  cases saves with
  | @saved run after final path completed asked =>
    -- The file holds what was written last.
    obtain rfl : _ = path := Option.some.inj asked
    obtain ⟨accesses, -, led, -⟩ := agree.related.grows
    refine ⟨run, after, final, completed, led.trans ?_⟩
    rw [Workspace.accessAll, List.foldl_append]
    rfl
  | spared unasked => cases unasked _ _ _ ends

/-- Hooks that answer alike whatever the state, one of which makes the directory of the file for the
filled tests: a run that stops at the first failure never gets to it. -/
theorem breakFail_changes_status :
    let workspace : Workspace (List Text) :=
      { shell := fun line state =>
          (if line = "false".toList then .ok 1 else .ok 0,
            if line = "mkdir -p d".toList then "d".toList :: state else state)
        execute := fun _ _ stdin _ state => (.ok (.completed stdin), state)
        temporary := fun state => (.ok "tmp".toList, state)
        pathExists := fun _ _ => true
        entries := fun _ _ => none
        readText := fun _ state => (.ok ("INPUT /\x7ba\x7d/ STARTUP /\x7bfalse\x7d/ ".toList ++
          "INPUT /\x7bb\x7d/ STARTUP /\x7bmkdir -p d\x7d/".toList), state)
        writeText := fun path _ state =>
          (if path = "d/out.txt".toList ∧ "d".toList ∉ state then
            .error "No such file or directory (os error 2)".toList else .ok (), state)
        compile := fun _ _ state => (none, state) }
    let args := ["-m".toList, "fill".toList, "-o".toList, "d/out.txt".toList, "./prog".toList]
    workspace.toHost.Stateless ∧ (perform workspace args []).1.2 = 0 ∧
      (perform workspace ("--break-fail=1".toList :: args) []).1.2 = 1 := by
  intro workspace args
  -- Both runs are evaluated: the second one is over before the directory is there.
  exact ⟨⟨fun _ _ _ => rfl, fun _ _ _ _ _ _ => rfl⟩, by decide +kernel, by decide +kernel⟩

end

end CommandLine

end TaggedTests
