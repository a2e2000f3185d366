import TaggedTests.Proofs.Suite.Outcomes
import TaggedTests.Proofs.Test.FirstFailure

/-! Runs with a host that takes down its calls: nothing else changes, and no call is taken back. -/

namespace TaggedTests

variable {σ : Type}

/-- A recorded host only ever adds calls while it runs tests. -/
theorem Host.prefix_afterRuns (host : Host σ) (invocation : Invocation) (limit : Duration)
    (tests : List Test) (state : List Call × σ) :
    state.1 <+: (host.recorded.afterRuns invocation limit tests state).1 := by
  -- The calls of the first test are added before those of the others.
  induction tests generalizing state with
  | nil => exact List.prefix_rfl
  | cons test rest ih =>
    obtain ⟨more, ran⟩ := test.exists_run_recorded host invocation limit state.1 state.2
    refine List.IsPrefix.trans ?_ (ih (test.run host.recorded invocation limit state).2)
    rw [ran]
    exact List.prefix_append state.1 more

/-- A recorded host answers as the host does and adds calls to those it started with. -/
theorem Host.simulates_recorded (host : Host σ) (calls : List Call) :
    host.recorded.Simulates host fun record state => ∃ more, record = (calls ++ more, state) where
  -- A call is put behind those in the record and answered as it is without one.
  shell line := by
    rintro _ state ⟨more, rfl⟩
    exact ⟨rfl, more ++ [.hook line], by simp [recorded]⟩
  execute invocation args stdin limit := by
    rintro _ state ⟨more, rfl⟩
    exact ⟨rfl, more ++ [.program invocation args stdin limit], by simp [recorded]⟩

namespace Suite

/-- A recorded host runs a suite as the host does and adds the calls of the run. -/
theorem exists_run_recorded (host : Host σ) (suite : Suite) (options : RunOptions)
    (invocation : Invocation) (calls : List Call) (state : σ) :
    ∃ more, suite.run host.recorded options invocation (calls, state) =
      ((suite.run host options invocation state).1, calls ++ more,
        (suite.run host options invocation state).2) := by
  -- At the start there are no more calls than those that are given.
  obtain ⟨answer, more, left⟩ := (host.simulates_recorded calls).runSuite suite options invocation
    ⟨[], by rw [List.append_nil]⟩
  exact ⟨more, Prod.ext answer left⟩

/-- What a recorded host comes to, the host comes to without the calls. -/
theorem run_of_recorded {host : Host σ} {suite : Suite} {options : RunOptions}
    {invocation : Invocation} {calls : List Call} {state : σ}
    {result : Except FormatError (Run × Suite)} {final : List Call × σ}
    (ran : suite.run host.recorded options invocation (calls, state) = (result, final)) :
    suite.run host options invocation state = (result, final.2) := by
  obtain ⟨more, recorded⟩ := suite.exists_run_recorded host options invocation calls state
  rw [recorded, Prod.mk.injEq] at ran
  -- Answer and final state are those of the run without a record.
  obtain ⟨rfl, rfl⟩ := ran
  rfl

end Suite

end TaggedTests
