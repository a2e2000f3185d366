import TaggedTests.Host.Recorded

/-! Shell lines that a host is asked to run in turn, and the first of them that fails. -/

namespace TaggedTests

/-- A shell line with the answer that a host gave to it. -/
structure Hook where
  line : Text
  /-- The exit code, or why no shell could be started. -/
  answer : Except Text Int

namespace Hook

/-- Did the line exit with zero? -/
def succeeded (hook : Hook) : Bool :=
  match hook.answer with
  | .ok code => code = 0
  | .error _ => false

/-- A line succeeds by the one answer that is an exit code of zero. -/
theorem succeeded_iff {hook : Hook} : hook.succeeded = true ↔ hook.answer = .ok 0 := by
  unfold succeeded
  cases hook.answer <;> simp

/-- The call that asks a host for the line. -/
def call (hook : Hook) : Call := .hook hook.line

/-- The first hook of a list that does not succeed. -/
def firstFailing? (hooks : List Hook) : Option Hook := hooks.find? (!·.succeeded)

/-- No hook fails exactly when all of them succeed. -/
theorem firstFailing?_eq_none_iff {hooks : List Hook} :
    firstFailing? hooks = none ↔ ∀ hook ∈ hooks, hook.answer = .ok 0 := by
  simp [firstFailing?, succeeded_iff]

end Hook

/-- Hooks are lines in order, up to and including the first that does not exit with zero. -/
structure UpToFailure (lines : List Text) (hooks : List Hook) : Prop where
  inOrder : hooks.map Hook.line <+: lines
  stops : ∀ hook ∈ hooks.dropLast, hook.answer = .ok 0
  goesOn : (∀ hook ∈ hooks, hook.answer = .ok 0) → hooks.map Hook.line = lines

/-- Without lines there are no hooks. -/
theorem upToFailure_nil : UpToFailure [] [] := ⟨List.prefix_rfl, by simp, fun _ => rfl⟩

/-- A line that fails is the last one. -/
theorem upToFailure_singleton {hook : Hook} (fails : hook.answer ≠ .ok 0) (rest : List Text) :
    UpToFailure (hook.line :: rest) [hook] where
  inOrder := ⟨rest, rfl⟩
  stops := by simp
  -- The hook fails, so nothing is said about the lines behind it.
  goesOn success := absurd (success hook (List.mem_singleton_self hook)) fails

/-- A line that succeeds is followed by the others. -/
theorem UpToFailure.cons {rest : List Text} {hooks : List Hook} (upTo : UpToFailure rest hooks)
    {hook : Hook} (succeeds : hook.answer = .ok 0) :
    UpToFailure (hook.line :: rest) (hook :: hooks) where
  inOrder := List.prefix_cons_inj _ |>.2 upTo.inOrder
  stops := by
    -- The last hook of the whole list is that of the others, if there are any.
    rcases hooks with _ | ⟨next, hooks⟩
    · simp
    · simpa [List.dropLast_cons_cons, succeeds] using upTo.stops
  goesOn success := congrArg (hook.line :: ·)
    (upTo.goesOn fun other member => success other (List.mem_cons_of_mem hook member))

namespace Host

variable {σ : Type}

/-- A host gives the answers of some hooks, each in the state that the one before it left. -/
inductive Asks (host : Host σ) : σ → List Hook → σ → Prop where
  | nil (state : σ) : Asks host state [] state
  | cons {state next final : σ} {hook : Hook} {hooks : List Hook}
    (asked : host.shell hook.line state = (hook.answer, next)) (rest : Asks host next hooks final) :
    Asks host state (hook :: hooks) final

variable {host : Host σ} {line : Text} {state : σ}

/-- A line that exits with zero is passed over in the search for one that fails. -/
theorem firstFailing_cons_of_success {next : σ} (asked : host.shell line state = (.ok 0, next))
    (rest : List Text) : host.firstFailing (line :: rest) state = host.firstFailing rest next := by
  simp [firstFailing, asked]

/-- The search ends at a line that does not exit with zero. -/
theorem firstFailing_cons_of_failure {answer : Except Text Int} {next : σ}
    (asked : host.shell line state = (answer, next)) (fails : answer ≠ .ok 0) (rest : List Text) :
    host.firstFailing (line :: rest) state = (some line, next) := by
  -- Every answer but the one that is excluded ends the search.
  simp only [firstFailing, asked]

/-- A recorded host answers as the host does and takes down the line. -/
theorem recorded_shell {answer : Except Text Int} {next : σ}
    (asked : host.shell line state = (answer, next)) (calls : List Call) :
    host.recorded.shell line (calls, state) = (answer, calls ++ [.hook line], next) := by
  simp [recorded, asked]

/-- A recorded host runs a program as the host does and takes down the execution. -/
theorem recorded_execute {invocation : Invocation} {args : List Text} {stdin : Text}
    {limit : Duration} {answer : Except Text Execution} {next : σ}
    (ended : host.execute invocation args stdin limit state = (answer, next))
    (calls : List Call) :
    host.recorded.execute invocation args stdin limit (calls, state) =
      (answer, calls ++ [.program invocation args stdin limit], next) := by
  simp [recorded, ended]

/-- Searching for a failing line calls for the lines up to the first that fails, and recording the
calls changes nothing. -/
theorem exists_hooks_firstFailing (host : Host σ) (lines : List Text) (calls : List Call)
    (state : σ) :
    ∃ hooks final, host.Asks state hooks final ∧ UpToFailure lines hooks ∧
      host.firstFailing lines state = ((Hook.firstFailing? hooks).map Hook.line, final) ∧
      host.recorded.firstFailing lines (calls, state) =
        ((Hook.firstFailing? hooks).map Hook.line, calls ++ hooks.map Hook.call, final) := by
  -- The first line either fails, which ends the search, or is followed by the others.
  induction lines generalizing calls state with
  | nil =>
    refine ⟨[], state, .nil state, upToFailure_nil, ?_, ?_⟩ <;>
      simp [firstFailing, Hook.firstFailing?]
  | cons line rest ih =>
    rcases asked : host.shell line state with ⟨answer, next⟩
    have taken := recorded_shell asked calls
    let hook : Hook := ⟨line, answer⟩
    by_cases success : answer = .ok 0
    · -- A line that succeeds is the first of the hooks, and the others follow.
      subst success
      obtain ⟨hooks, final, asks, upTo, found, written⟩ := ih (calls ++ [.hook line]) next
      refine ⟨hook :: hooks, final, .cons asked asks, @UpToFailure.cons _ _ upTo hook rfl, ?_, ?_⟩
      · rw [firstFailing_cons_of_success asked, found]
        simp [Hook.firstFailing?, Hook.succeeded, hook]
      · rw [firstFailing_cons_of_success taken, written]
        simp [Hook.firstFailing?, Hook.succeeded, Hook.call, hook]
    · -- A line that fails is the only hook that was asked.
      have unsuccessful : hook.succeeded = false := by
        rw [← Bool.not_eq_true, Hook.succeeded_iff]
        exact success
      refine ⟨[hook], next, .cons asked (.nil next), @upToFailure_singleton hook success rest,
        ?_, ?_⟩
      · rw [firstFailing_cons_of_failure asked success]
        simp [Hook.firstFailing?, unsuccessful, hook]
      · rw [firstFailing_cons_of_failure taken success]
        simp [Hook.firstFailing?, unsuccessful, Hook.call, hook]

end Host

end TaggedTests
