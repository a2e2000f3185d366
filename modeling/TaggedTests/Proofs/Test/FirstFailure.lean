import TaggedTests.Proofs.Host.Hooks
import TaggedTests.Proofs.Test.Verdict

/-!
The calls that a run of a test makes, and how their answers decide it.

Preparation, program and cleanup come in this order. The first failure among the answers is the
failure of the test, whatever fails after it.
-/

namespace TaggedTests

/-- What a host was asked for in a run of a test, with its answers. -/
structure Trace where
  startup : List Hook
  /-- The answer to the execution of the program, if it came to that. -/
  execution : Option (Except Text Execution)
  cleanup : List Hook

/-- The failure that an execution of the program amounts to. -/
def Failure.ofExecution? : Except Text Execution → Option Failure
  | .ok (.completed _) => none
  | .ok .timedOut => some .timeout
  | .error message => some (.spawn message)

namespace Trace

/-- The calls of a run in order, the one for the program being given. -/
def calls (trace : Trace) (program : Call) : List Call :=
  trace.startup.map Hook.call ++ (trace.execution.map fun _ => program).toList ++
    trace.cleanup.map Hook.call

/-- What the program printed, if it ended in time. -/
def output? (trace : Trace) : Option Text :=
  match trace.execution with
  | some (.ok (.completed output)) => some output
  | _ => none

/-- The failures among the answers, in order. -/
def answered (trace : Trace) : List Failure :=
  (trace.startup.filter (!·.succeeded)).map (fun hook => .startup hook.line) ++
    (trace.execution.bind Failure.ofExecution?).toList ++
    (trace.cleanup.filter (!·.succeeded)).map fun hook => .cleanup hook.line

/-- The mismatch of an output that a filled test does not expect. -/
def mismatch? (trace : Trace) (test : Test) : Option Failure :=
  trace.output?.bind fun output =>
    if test.filled && !test.expects output then some .mismatch else none

/-- All failures of a run in order; whether the output is the expected one is looked at last. -/
def failures (trace : Trace) (test : Test) : List Failure :=
  trace.answered ++ (trace.mismatch? test).toList

/--
The host gives the answers of the trace, from the state before the run to the one after it.

The preparation is run up to its first failure. Only if it has none, the program is run, and then
the cleanup up to its first failure, whatever became of the program.
-/
structure Follows {σ : Type} (host : Host σ) (test : Test) (invocation : Invocation)
    (limit : Duration) (before : σ) (trace : Trace) (after : σ) : Prop where
  answers : ∃ prepared executed, host.Asks before trace.startup prepared ∧
    (match trace.execution with
      | none => executed = prepared
      | some answer =>
        host.execute invocation test.args test.stdin limit prepared = (answer, executed)) ∧
    host.Asks executed trace.cleanup after
  startup : UpToFailure test.startup trace.startup
  executes : trace.execution.isSome ↔ ∀ hook ∈ trace.startup, hook.answer = .ok 0
  cleanup : trace.execution.isSome → UpToFailure test.cleanup trace.cleanup
  noCleanup : trace.execution = none → trace.cleanup = []

/-- What the answers of a trace come to: their first failure or, without any, the output. -/
def AmountsTo (trace : Trace) : Attempt → Prop
  | .error failure => trace.answered.head? = some failure
  | .ok output => trace.answered = [] ∧ trace.output? = some output

variable {trace : Trace} {test : Test}

/-- The first failure among the answers is that of the preparation, or else of the program, or else
of the cleanup. -/
theorem head?_answered : trace.answered.head? =
    (((Hook.firstFailing? trace.startup).map (.startup ∘ Hook.line)).or
      (trace.execution.bind Failure.ofExecution?)).or
        ((Hook.firstFailing? trace.cleanup).map (.cleanup ∘ Hook.line)) := by
  -- A list is searched for its first failing hook.
  have first (failure : Text → Failure) (hooks : List Hook) :
      ((hooks.filter (!·.succeeded)).map fun hook => failure hook.line).head? =
        (Hook.firstFailing? hooks).map (failure ∘ Hook.line) := by
    rw [List.head?_map, List.head?_filter]
    rfl
  rw [answered, List.head?_append, List.head?_append, first, first, Option.head?_toList]

/-- Without a failure among the answers all hooks succeeded and the program did not fail. -/
theorem answered_eq_nil_iff : trace.answered = [] ↔
    (∀ hook ∈ trace.startup, hook.answer = .ok 0) ∧
      trace.execution.bind Failure.ofExecution? = none ∧
        ∀ hook ∈ trace.cleanup, hook.answer = .ok 0 := by
  simp [answered, Hook.succeeded_iff]

/-- The program printed a text exactly when it was run and ended in time. -/
theorem output?_eq_some_iff {output : Text} :
    trace.output? = some output ↔ trace.execution = some (.ok (.completed output)) := by
  rcases trace with ⟨startup, _ | (message | (printed | _)), cleanup⟩ <;> simp [output?]

/-- A failure among the answers leaves a notice in place of the output. -/
theorem notice?_isSome_of_mem {failure : Failure} (member : failure ∈ trace.answered) :
    failure.notice?.isSome := by
  -- Only a mismatch leaves none, and no answer is one.
  unfold answered at member
  simp only [List.mem_append, List.mem_map, Option.mem_toList, Option.bind_eq_some_iff] at member
  obtain (⟨hook, -, rfl⟩ | ⟨answer, -, found⟩) | ⟨hook, -, rfl⟩ := member
  · rfl
  · rcases answer with message | (output | _) <;> cases found <;> rfl
  · rfl

/-- An execution, judged with the cleanup after it, is what the answers come to when the preparation
succeeded. -/
theorem amountsTo_afterCleanup {startup : List Hook} (prepared : Hook.firstFailing? startup = none)
    (execution : Except Text Execution) (cleanup : List Hook) :
    AmountsTo ⟨startup, some execution, cleanup⟩
      ((Attempt.ofExecution execution).afterCleanup
        ((Hook.firstFailing? cleanup).map Hook.line)) := by
  -- A program that failed hides a failure of the cleanup.
  rcases execution with message | (output | _)
  · simp [Attempt.ofExecution, Attempt.afterCleanup, AmountsTo, head?_answered, prepared,
      Failure.ofExecution?]
  · cases failing : Hook.firstFailing? cleanup with
    | some hook =>
      simp [Attempt.ofExecution, Attempt.afterCleanup, AmountsTo, head?_answered, prepared,
        Failure.ofExecution?, failing]
    | none =>
      refine ⟨answered_eq_nil_iff.2 ⟨?_, rfl, ?_⟩, rfl⟩
      · exact Hook.firstFailing?_eq_none_iff.1 prepared
      · exact Hook.firstFailing?_eq_none_iff.1 failing
  · simp [Attempt.ofExecution, Attempt.afterCleanup, AmountsTo, head?_answered, prepared,
      Failure.ofExecution?]

/-- A run is without any failure when all hooks succeeded and the program printed what is expected,
if anything is. -/
theorem AmountsTo.failures_eq_nil_iff {attempt : Attempt} (amounts : trace.AmountsTo attempt) :
    trace.failures test = [] ↔ (∀ hook ∈ trace.startup ++ trace.cleanup, hook.answer = .ok 0) ∧
      ∃ output, trace.execution = some (.ok (.completed output)) ∧
        (test.filled = false ∨ test.expects output = true) := by
  cases attempt with
  | error failure =>
    -- The failure is one of the answers, and then some hook or the program has failed.
    have some : trace.answered ≠ [] := by
      intro none
      simp [AmountsTo, none] at amounts
    simp only [failures, List.append_eq_nil_iff, some, false_and, false_iff, not_and, not_exists]
    intro hooks output ended
    refine absurd (answered_eq_nil_iff.2 ⟨fun hook member => ?_, ?_, fun hook member => ?_⟩) some
    · exact hooks hook (List.mem_append_left _ member)
    · rw [ended]
      rfl
    · exact hooks hook (List.mem_append_right _ member)
  | ok output =>
    -- Without a failure among the answers, only the output is left to be judged.
    obtain ⟨none, printed⟩ := amounts
    obtain ⟨prepared, -, cleaned⟩ := answered_eq_nil_iff.1 none
    have ended := output?_eq_some_iff.1 printed
    have hooks : ∀ hook ∈ trace.startup ++ trace.cleanup, hook.answer = .ok 0 := fun hook member =>
      (List.mem_append.1 member).elim (prepared hook) (cleaned hook)
    have judged : trace.mismatch? test = Option.none ↔
        test.filled = false ∨ test.expects output = true := by
      cases filled : test.filled <;> simp [mismatch?, printed, filled]
    rw [failures, none, List.nil_append, Option.toList_eq_nil_iff, judged]
    refine ⟨fun fits => ⟨hooks, output, ended, fits⟩, ?_⟩
    rintro ⟨-, other, also, fits⟩
    cases ended.symm.trans also
    exact fits

end Trace

namespace Test

variable {σ : Type}

/-- The first failure of a trace decides what is recorded and how the test is judged. -/
theorem settle_of_amountsTo {trace : Trace} {attempt : Attempt} (test : Test)
    (amounts : trace.AmountsTo attempt) :
    let first? := (trace.failures test).head?
    test.settle attempt = (first?.elim .passed .failed, { test with
      captured := (first?.bind Failure.notice?).or trace.output?
      lastRunFailed := some first?.isSome }) := by
  cases attempt with
  | error failure =>
    have first : (trace.failures test).head? = some failure := by
      rw [Trace.failures, List.head?_append, amounts, Option.some_or]
    -- A failed attempt always leaves a notice.
    obtain ⟨notice, noted⟩ := Option.isSome_iff_exists.1
      (Trace.notice?_isSome_of_mem (List.mem_of_mem_head? amounts))
    simp [first, settle, recordRun, noted]
  | ok output =>
    obtain ⟨none, printed⟩ := amounts
    -- Only a mismatch is left as a failure.
    have first : (trace.failures test).head? =
        if test.filled && !test.expects output then some .mismatch else Option.none := by
      rw [Trace.failures, none, List.nil_append, Option.head?_toList, Trace.mismatch?, printed]
      rfl
    rw [settle_ok, first, printed]
    split <;> rfl

/-- A preparation that fails is the whole trace of an attempt. -/
theorem follows_of_startup {host : Host σ} {test : Test} {invocation : Invocation}
    {limit : Duration} {state prepared : σ} {startup : List Hook} {failing : Hook}
    (asked : host.Asks state startup prepared) (upTo : UpToFailure test.startup startup)
    (failed : Hook.firstFailing? startup = some failing) :
    Trace.Follows host test invocation limit state ⟨startup, none, []⟩ prepared where
  -- The program is not run and the cleanup not begun, so that nothing is asked after the failure.
  answers := ⟨prepared, prepared, asked, rfl, .nil prepared⟩
  startup := upTo
  executes := by
    have failure : Hook.firstFailing? startup ≠ none := by simp [failed]
    simpa using mt Hook.firstFailing?_eq_none_iff.2 failure
  cleanup := by simp
  noCleanup := fun _ => rfl

/-- An attempt follows a trace, whose answers it amounts to; recording the calls gives those of the
trace and changes nothing else. -/
theorem exists_trace_attempt (host : Host σ) (test : Test) (invocation : Invocation)
    (limit : Duration) (calls : List Call) (state : σ) :
    ∃ trace attempt final, Trace.Follows host test invocation limit state trace final ∧
      trace.AmountsTo attempt ∧
      test.attempt host invocation limit state = (attempt, final) ∧
      test.attempt host.recorded invocation limit (calls, state) =
        (attempt, calls ++ trace.calls (.program invocation test.args test.stdin limit),
          final) := by
  -- The preparation is asked for first.
  obtain ⟨startup, prepared, asked, upTo, found, recorded⟩ :=
    host.exists_hooks_firstFailing test.startup calls state
  cases failing : Hook.firstFailing? startup with
  | some hook =>
    rw [failing] at found recorded
    -- A hook that fails in the preparation ends the attempt.
    refine ⟨⟨startup, none, []⟩, .error (.startup hook.line), prepared,
      follows_of_startup asked upTo failing, ?_, ?_, ?_⟩
    · simp [Trace.AmountsTo, Trace.head?_answered, failing]
    · simp [attempt, found]
    · simp [attempt, recorded, Trace.calls]
  | none =>
    -- Then comes the program, and in any case the cleanup.
    rw [failing] at found recorded
    rcases ended : host.execute invocation test.args test.stdin limit prepared with
      ⟨execution, executed⟩
    obtain ⟨cleanup, final, cleaned, upToLast, tidied, written⟩ :=
      host.exists_hooks_firstFailing test.cleanup
        (calls ++ startup.map Hook.call ++ [.program invocation test.args test.stdin limit])
        executed
    refine ⟨⟨startup, some execution, cleanup⟩,
      (Attempt.ofExecution execution).afterCleanup
        ((Hook.firstFailing? cleanup).map Hook.line), final, ?_, ?_, ?_, ?_⟩
    · exact {
        answers := ⟨prepared, executed, asked, ended, cleaned⟩
        startup := upTo
        executes := by simpa using Hook.firstFailing?_eq_none_iff.1 failing
        cleanup := fun _ => upToLast
        noCleanup := by simp }
    · exact Trace.amountsTo_afterCleanup failing execution cleanup
    · simp [attempt, found, ended, tidied]
    · simp only [attempt, recorded, Option.map_none, Host.recorded_execute ended, written]
      simp [Trace.calls]

/-- A recorded host runs a test as the host does and adds the calls of the run. -/
theorem exists_run_recorded (host : Host σ) (test : Test) (invocation : Invocation)
    (limit : Duration) (calls : List Call) (state : σ) :
    ∃ more, test.run host.recorded invocation limit (calls, state) =
      ((test.run host invocation limit state).1, calls ++ more,
        (test.run host invocation limit state).2) := by
  -- The calls of an attempt are those of its trace, and the judgement makes none.
  obtain ⟨trace, attempt, final, -, -, plainly, recorded⟩ :=
    exists_trace_attempt host test invocation limit calls state
  exact ⟨_, by rw [run_eq, run_eq, plainly, recorded]⟩

/-- What comes of a run can be read off one whose calls are recorded. -/
theorem run_of_recorded (host : Host σ) (test : Test) (invocation : Invocation)
    (limit : Duration) (calls : List Call) (state : σ) :
    test.run host invocation limit state =
      ((test.run host.recorded invocation limit (calls, state)).1,
        (test.run host.recorded invocation limit (calls, state)).2.2) := by
  obtain ⟨more, ran⟩ := test.exists_run_recorded host invocation limit calls state
  rw [ran]

/--
A run asks for the preparation, the program and the cleanup in this order, and its first failure
decides.

The calls are those of a trace that the host follows: the lines of the preparation up to the first
that fails; then, if none did, the program and, however it ended, the lines of the cleanup up to the
first that fails. The earliest failure is the outcome, and its notice or else the output is what is
recorded. Only a test whose output was looked at, with no failure before it, can pass.
-/
theorem run_follows_trace (host : Host σ) (test : Test) (invocation : Invocation)
    (limit : Duration) (calls : List Call) (state : σ) :
    let ran := test.run host.recorded invocation limit (calls, state)
    ∃ trace, Trace.Follows host test invocation limit state trace ran.2.2 ∧
      ran.2.1 = calls ++ trace.calls (.program invocation test.args test.stdin limit) ∧
      test.run host invocation limit state = (ran.1, ran.2.2) ∧
      ran.1.1 = (trace.failures test).head?.elim .passed .failed ∧
      (ran.1.1 = .passed ↔ (∀ hook ∈ trace.startup ++ trace.cleanup, hook.answer = .ok 0) ∧
        ∃ output, trace.execution = some (.ok (.completed output)) ∧
          (test.filled = false ∨ test.expects output = true)) ∧
      ran.1.2 = { test with
        captured := ((trace.failures test).head?.bind Failure.notice?).or trace.output?
        lastRunFailed := some (decide (ran.1.1 ≠ .passed)) } := by
  -- The answers of the trace amount to the attempt, and the attempt settles the test.
  obtain ⟨trace, attempt, final, follows, amounts, plainly, recorded⟩ :=
    exists_trace_attempt host test invocation limit calls state
  intro ran
  have settled := settle_of_amountsTo test amounts
  have whole : ran = (test.settle attempt,
      calls ++ trace.calls (.program invocation test.args test.stdin limit), final) := by
    simp [ran, run, recorded]
  -- A test passes if nothing in its trace is a failure.
  have passed : (trace.failures test).head?.elim Outcome.passed .failed = .passed ↔
      trace.failures test = [] := by
    cases trace.failures test <;> simp
  have verdict : (trace.failures test).head?.isSome =
      decide ((trace.failures test).head?.elim Outcome.passed .failed ≠ .passed) := by
    cases trace.failures test <;> simp
  refine ⟨trace, ?_, ?_, ?_, ?_, ?_, ?_⟩
  · rwa [whole]
  · rw [whole]
  · rw [whole, run, plainly]
  · rw [whole, settled]
  · rw [whole, settled, passed, amounts.failures_eq_nil_iff]
  · rw [whole, settled, verdict]

end Test

end TaggedTests
