import TaggedTests.Build
import TaggedTests.Proofs.Host.Simulation
import TaggedTests.Workspace.Recorded

/-!
How a workspace is accessed while a program is built and tests are run.

A record of the accesses changes nothing of what comes of them. None of them writes a file, but for
the main file of a build, which lies in a directory for intermediate files.
-/

namespace TaggedTests

variable {σ α : Type} {workspace : Workspace σ}

/-- An access that leaves the files of the user alone: only a main file is written, beside the
executable in a directory for intermediate files. -/
def Access.Aside (workspace : Workspace σ) : Access → Prop
  | .write path _ => ∃ earlier directory language,
      (workspace.temporary earlier).1 = .ok directory ∧
        path = Path.join directory ("main.".toList ++ Language.extension language)
  | _ => True

namespace Workspace

/-- Something about a state that no access changes which leaves the files of the user alone. For
the content of a file, hooks, programs and compilers must not touch the file. -/
def Spares (workspace : Workspace σ) (observe : σ → α) : Prop :=
  ∀ access state, access.Aside workspace → observe (workspace.access state access) = observe state

/-- What is spared is the same after any number of accesses. -/
theorem Spares.accessAll {observe : σ → α} (spares : workspace.Spares observe)
    {accesses : List Access} (aside : ∀ access ∈ accesses, access.Aside workspace) (state : σ) :
    observe (workspace.accessAll state accesses) = observe state := by
  induction accesses generalizing state with
  | nil => rfl
  | cons access rest ih =>
    -- Neither the first access nor those after it change what is spared.
    obtain ⟨own, others⟩ := List.forall_mem_cons.1 aside
    exact (ih others (workspace.access state access)).trans (spares access state own)

/-- A record has grown by accesses that lead to a state: any number of them that leave the files of
the user alone, and then some last ones. -/
structure Logged (workspace : Workspace σ) (start : List Access × σ) (last : List Access)
    (record : List Access × σ) (state : σ) : Prop where
  same : record.2 = state
  grows : ∃ accesses, record.1 = start.1 ++ (accesses ++ last) ∧
    state = workspace.accessAll start.2 (accesses ++ last) ∧
    ∀ access ∈ accesses, access.Aside workspace

variable {start record : List Access × σ} {state : σ}

/-- At the start no access has been made. -/
theorem logged_start (start : List Access × σ) : workspace.Logged start [] start start.2 :=
  ⟨rfl, [], by simp, rfl, by simp⟩

/-- Without last accesses, what is spared is the same as at the start. -/
theorem Logged.spared (logged : workspace.Logged start [] record state) {observe : σ → α}
    (spares : workspace.Spares observe) : observe state = observe start.2 := by
  obtain ⟨accesses, -, led, aside⟩ := logged.grows
  -- All accesses since the start are in the record, and they leave the files alone.
  rw [led, List.append_nil]
  exact spares.accessAll aside start.2

/-- One more access that leaves the files of the user alone. -/
theorem Logged.access (logged : workspace.Logged start [] record state) {access : Access}
    (aside : access.Aside workspace) :
    workspace.Logged start [] (record.1 ++ [access], workspace.access record.2 access)
      (workspace.access state access) := by
  obtain ⟨accesses, log, led, all⟩ := logged.grows
  -- The access stands behind those before it in the record, and has its effect after theirs.
  refine ⟨by rw [logged.same], accesses ++ [access], ?_, ?_, ?_⟩
  · simp [log]
  · simp [led, accessAll]
  · simpa [or_imp, forall_and] using ⟨all, aside⟩

/-- The directory for intermediate files is made, or cannot be made. -/
theorem Logged.temporary (logged : workspace.Logged start [] record state) :
    Agree (workspace.Logged start []) (workspace.recorded.temporary record)
      (workspace.temporary state) :=
  ⟨by rw [← logged.same]; rfl, @logged.access _ _ _ _ _ .temporary trivial⟩

/-- A file is read. -/
theorem Logged.readText (logged : workspace.Logged start [] record state) (path : Text) :
    Agree (workspace.Logged start []) (workspace.recorded.readText path record)
      (workspace.readText path state) :=
  ⟨by rw [← logged.same]; rfl, @logged.access _ _ _ _ _ (.read path) trivial⟩

/-- A compiler is run. -/
theorem Logged.compile (logged : workspace.Logged start [] record state) (compiler : Text)
    (args : List Text) :
    Agree (workspace.Logged start []) (workspace.recorded.compile compiler args record)
      (workspace.compile compiler args state) :=
  ⟨by rw [← logged.same]; rfl, @logged.access _ _ _ _ _ (.compile compiler args) trivial⟩

/-- A main file is written beside the executable. -/
theorem Logged.writeMain (logged : workspace.Logged start [] record state) {path : Text}
    (text : Text) (aside : (Access.write path text).Aside workspace) :
    Agree (workspace.Logged start []) (workspace.recorded.writeText path text record)
      (workspace.writeText path text state) :=
  ⟨by rw [← logged.same]; rfl, @logged.access _ _ _ _ _ (.write path text) aside⟩

/-- A file is written in the end. -/
theorem Logged.write (logged : workspace.Logged start [] record state) (path text : Text) :
    Agree (workspace.Logged start [.write path text])
      (workspace.recorded.writeText path text record) (workspace.writeText path text state) := by
  -- Only this access may reach a file of the user: those before it still leave them alone.
  obtain ⟨accesses, log, led, all⟩ := logged.grows
  refine ⟨by rw [← logged.same]; rfl, by rw [← logged.same]; rfl, accesses, ?_, ?_, all⟩
  · simp [recorded, log]
  · simp [led, accessAll, Workspace.access]

/-- Hooks and programs run on a recorded workspace as they do without the record. -/
theorem simulates_recorded (workspace : Workspace σ) (start : List Access × σ) :
    workspace.recorded.toHost.Simulates workspace.toHost (workspace.Logged start []) where
  -- A hook or a program is one more access, which writes no file itself.
  shell line record state logged :=
    ⟨by rw [← logged.same]; rfl, @logged.access _ _ _ _ _ (.call (.hook line)) trivial⟩
  execute invocation args stdin limit record state logged :=
    ⟨by rw [← logged.same]; rfl,
      @logged.access _ _ _ _ _ (.call (.program invocation args stdin limit)) trivial⟩

/-- A suite is run on a recorded workspace as it is without the record. -/
theorem Logged.runSuite (logged : workspace.Logged start [] record state) (suite : Suite)
    (options : RunOptions) (invocation : Invocation) :
    Agree (workspace.Logged start [])
      (suite.run workspace.recorded.toHost options invocation record)
      (suite.run workspace.toHost options invocation state) :=
  (workspace.simulates_recorded start).runSuite suite options invocation logged

/-- Preparing a build writes its main file, if it has one. -/
theorem Logged.prepare (logged : workspace.Logged start [] record state) {command : CompileCommand}
    (beside : ∀ path text, command.mainFile = some (path, text) →
      (Access.write path text).Aside workspace) :
    Agree (workspace.Logged start []) (command.prepare workspace.recorded record)
      (command.prepare workspace state) := by
  unfold CompileCommand.prepare
  cases main : command.mainFile with
  | none => exact ⟨rfl, logged⟩
  | some file =>
    -- The only file that is written here is the main file.
    have written := logged.writeMain file.2 (beside file.1 file.2 main)
    exact ⟨by simp only [written.answer], written.related⟩

/-- A build prepares and runs its compiler. -/
theorem Logged.runCompiler (logged : workspace.Logged start [] record state)
    {command : CompileCommand}
    (beside : ∀ path text, command.mainFile = some (path, text) →
      (Access.write path text).Aside workspace) :
    Agree (workspace.Logged start []) (command.run workspace.recorded record)
      (command.run workspace state) := by
  rcases two : command.prepare workspace state with ⟨written, steady⟩
  obtain ⟨ready, one, kept⟩ := (logged.prepare beside).exists_left two
  -- Without its main file the compiler is not run.
  cases written with
  | error error => simpa [CompileCommand.run, one, two] using ⟨rfl, kept⟩
  | ok _ =>
    have compiled := kept.compile command.compiler command.args
    simp only [CompileCommand.run, one, two]
    exact ⟨by simp only [compiled.answer], compiled.related⟩

/-- The main file of a build lies in the directory that is built in. -/
theorem aside_mainFile {suite : Suite} {language : Language} {directory program path text : Text}
    {command : CompileCommand} {earlier : σ}
    (made : (workspace.temporary earlier).1 = .ok directory)
    (commanded : suite.compileCommand language directory program = .ok command)
    (main : command.mainFile = some (path, text)) : (Access.write path text).Aside workspace := by
  -- There is a command only with flags that can be split and a language that has a compiler.
  unfold Suite.compileCommand at commanded
  cases split : CompileCommand.splitFlags (suite.flags.getD []) with
  | error error => simp [split, Bind.bind, Except.bind] at commanded
  | ok flags =>
    simp only [split, Bind.bind, Except.bind, CompileCommand.make] at commanded
    cases compiled : language.compiler? with
    | none => simp [compiled] at commanded
    | some compiler =>
      simp only [compiled, Except.ok.injEq] at commanded
      subst commanded
      obtain ⟨content, -, same⟩ := Option.map_eq_some_iff.1 main
      cases same
      exact ⟨earlier, directory, language, made, rfl⟩

/-- Making a program ready to be run leaves the files of the user alone. -/
theorem Logged.build (logged : workspace.Logged start [] record state) (suite : Suite)
    (program : Text) (given : Option Language) {directory : Text} {earlier : σ}
    (made : (workspace.temporary earlier).1 = .ok directory) :
    Agree (workspace.Logged start [])
      (suite.build workspace.recorded program given directory record)
      (suite.build workspace program given directory state) := by
  unfold Suite.build
  -- Only a language that is compiled gives rise to an access.
  split
  · exact ⟨rfl, logged⟩
  · exact ⟨rfl, logged⟩
  · next language _ _ =>
    cases commanded : suite.compileCommand language directory program with
    | error error => exact ⟨rfl, logged⟩
    | ok command =>
      have ran := logged.runCompiler fun path text => aside_mainFile made commanded
      exact ⟨by simp only [ran.answer], ran.related⟩

end Workspace

/-- A suite is run to the end: a directory for intermediate files can be made, the program under
test is made ready to be run in it, and a time limit is known. -/
inductive Suite.Completes (workspace : Workspace σ) (suite : Suite) (program : Text)
    (given : Option Language) (launch : Invocation → Invocation) (options : RunOptions) (state : σ)
    (run : Run) (after : Suite) (final : σ) : Prop
  | intro {directory : Text} {invocation : Invocation} {compiler : Option CompilerRun}
    {made ready : σ} (directed : workspace.temporary state = (.ok directory, made))
    (built : suite.build workspace program given directory made =
      ((.ok invocation, compiler), ready))
    (ran : suite.run workspace.toHost options (launch invocation) ready =
      (.ok (run, after), final))

/-- A suite comes to one end at most. -/
theorem Suite.Completes.unique {suite after after' : Suite} {program : Text}
    {given : Option Language} {launch : Invocation → Invocation} {options : RunOptions}
    {state final final' : σ} {run run' : Run}
    (first : suite.Completes workspace program given launch options state run after final)
    (second : suite.Completes workspace program given launch options state run' after' final') :
    run = run' ∧ after = after' ∧ final = final' := by
  obtain ⟨directed, built, ran⟩ := first
  obtain ⟨directed', built', ran'⟩ := second
  -- Each stage has one answer, and the next one starts from it.
  cases directed.symm.trans directed'
  cases built.symm.trans built'
  cases ran.symm.trans ran'
  exact ⟨rfl, rfl, rfl⟩

/-- How far a suite comes, on a recorded workspace as without the record: it gets no directory, its
program is not made ready, no time limit is known, or it is run to the end. -/
inductive Workspace.Reaches (workspace : Workspace σ) (start record : List Access × σ)
    (suite : Suite) (program : Text) (given : Option Language) (launch : Invocation → Invocation)
    (options : RunOptions) (state : σ) : Prop
  | undirected {reason : Text} {beside : List Access × σ} {made : σ}
    (directed : workspace.temporary state = (.error reason, made))
    (recorded : workspace.recorded.temporary record = (.error reason, beside))
    (logged : workspace.Logged start [] beside made)
    (incomplete : ∀ run after final,
      ¬ suite.Completes workspace program given launch options state run after final)
  | unready {directory : Text} {error : BuildError} {compiler : Option CompilerRun}
    {beside further : List Access × σ} {made ready : σ}
    (directed : workspace.temporary state = (.ok directory, made))
    (recorded : workspace.recorded.temporary record = (.ok directory, beside))
    (built : suite.build workspace program given directory made =
      ((.error error, compiler), ready))
    (rebuilt : suite.build workspace.recorded program given directory beside =
      ((.error error, compiler), further))
    (logged : workspace.Logged start [] further ready)
    (incomplete : ∀ run after final,
      ¬ suite.Completes workspace program given launch options state run after final)
  | unlimited {directory : Text} {invocation : Invocation} {compiler : Option CompilerRun}
    {beside further : List Access × σ} {made ready final : σ} {error : FormatError}
    (directed : workspace.temporary state = (.ok directory, made))
    (recorded : workspace.recorded.temporary record = (.ok directory, beside))
    (built : suite.build workspace program given directory made =
      ((.ok invocation, compiler), ready))
    (rebuilt : suite.build workspace.recorded program given directory beside =
      ((.ok invocation, compiler), further))
    (logged : workspace.Logged start [] further ready)
    (ran : suite.run workspace.toHost options (launch invocation) ready = (.error error, final))
    (incomplete : ∀ run after final,
      ¬ suite.Completes workspace program given launch options state run after final)
  | complete {directory : Text} {invocation : Invocation} {compiler : Option CompilerRun}
    {beside further : List Access × σ} {made ready final : σ} {run : Run} {after : Suite}
    (directed : workspace.temporary state = (.ok directory, made))
    (recorded : workspace.recorded.temporary record = (.ok directory, beside))
    (built : suite.build workspace program given directory made =
      ((.ok invocation, compiler), ready))
    (rebuilt : suite.build workspace.recorded program given directory beside =
      ((.ok invocation, compiler), further))
    (logged : workspace.Logged start [] further ready)
    (ran : suite.run workspace.toHost options (launch invocation) ready =
      (.ok (run, after), final))

/-- A suite comes as far on a recorded workspace as without the record. -/
theorem Workspace.Logged.reaches {start record : List Access × σ} {state : σ}
    (logged : workspace.Logged start [] record state) (suite : Suite) (program : Text)
    (given : Option Language) (launch : Invocation → Invocation) (options : RunOptions) :
    workspace.Reaches start record suite program given launch options state := by
  rcases directed : workspace.temporary state with ⟨_ | directory, made⟩ <;>
    obtain ⟨beside, recorded, left⟩ := logged.temporary.exists_left directed
  · -- Without a directory to build in there is no run.
    refine .undirected directed recorded left ?_
    rintro run after final ⟨other, -, -⟩
    cases directed.symm.trans other
  rcases built : suite.build workspace program given directory made with
    ⟨⟨_ | invocation, compiler⟩, ready⟩ <;>
    obtain ⟨further, rebuilt, kept⟩ :=
      (left.build suite program given (congrArg Prod.fst directed)).exists_left built
  · -- Without an invocation there is none either.
    refine .unready directed recorded built rebuilt kept ?_
    rintro run after final ⟨again, other, -⟩
    cases directed.symm.trans again
    cases built.symm.trans other
  rcases ran : suite.run workspace.toHost options (launch invocation) ready with
    ⟨_ | ⟨run, after⟩, final⟩
  · -- Nor is there one without a known limit.
    refine .unlimited directed recorded built rebuilt kept ran ?_
    rintro run after final ⟨again, other, failed⟩
    cases directed.symm.trans again
    cases built.symm.trans other
    cases ran.symm.trans failed
  · exact .complete directed recorded built rebuilt kept ran

end TaggedTests
