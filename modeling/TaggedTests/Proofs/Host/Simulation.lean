import TaggedTests.Proofs.Host.Hooks
import TaggedTests.Proofs.Test.Verdict
import TaggedTests.Suite.Run

/-! Hosts that answer alike from related states: what is run on either comes to the same. -/

namespace TaggedTests

variable {σ τ α : Type}

/-- Two answers are the same, and the states after them are related. -/
structure Agree (Related : σ → τ → Prop) (left : α × σ) (right : α × τ) : Prop where
  answer : left.1 = right.1
  related : Related left.2 right.2

/-- What is known of the second answer is known of the first. -/
theorem Agree.exists_left {Related : σ → τ → Prop} {left : α × σ} {right : α × τ} {answer : α}
    {state : τ} (agree : Agree Related left right) (known : right = (answer, state)) :
    ∃ other, left = (answer, other) ∧ Related other state := by
  subst known
  exact ⟨left.2, Prod.ext agree.answer rfl, agree.related⟩

namespace Host

/-- Two hosts give the same answers in related states, and leave related states. -/
structure Simulates (host : Host σ) (twin : Host τ) (Related : σ → τ → Prop) : Prop where
  shell : ∀ line {state other}, Related state other →
    Agree Related (host.shell line state) (twin.shell line other)
  execute : ∀ invocation args stdin limit {state other}, Related state other →
    Agree Related (host.execute invocation args stdin limit state)
      (twin.execute invocation args stdin limit other)

namespace Simulates

variable {host : Host σ} {twin : Host τ} {Related : σ → τ → Prop} {state : σ} {other : τ}

/-- The same line fails first. -/
theorem firstFailing (simulates : host.Simulates twin Related) (lines : List Text)
    (related : Related state other) :
    Agree Related (host.firstFailing lines state) (twin.firstFailing lines other) := by
  -- A line that succeeds leaves related states for the others.
  induction lines generalizing state other with
  | nil => exact ⟨rfl, related⟩
  | cons line rest ih =>
    rcases two : twin.shell line other with ⟨answer, further⟩
    obtain ⟨next, one, kept⟩ := (simulates.shell line related).exists_left two
    by_cases success : answer = .ok 0
    · subst success
      rw [firstFailing_cons_of_success one, firstFailing_cons_of_success two]
      exact ih kept
    · rw [firstFailing_cons_of_failure one success, firstFailing_cons_of_failure two success]
      exact ⟨rfl, kept⟩

/-- An attempt comes to the same. -/
theorem attempt (simulates : host.Simulates twin Related) (test : Test) (invocation : Invocation)
    (limit : Duration) (related : Related state other) :
    Agree Related (test.attempt host invocation limit state)
      (test.attempt twin invocation limit other) := by
  -- Preparation, program and cleanup agree one after the other.
  rcases two : twin.firstFailing test.startup other with ⟨failing, steady⟩
  obtain ⟨ready, one, kept⟩ := (simulates.firstFailing test.startup related).exists_left two
  cases failing with
  | some line => simpa [Test.attempt, one, two] using ⟨rfl, kept⟩
  | none =>
    have executed := simulates.execute invocation test.args test.stdin limit kept
    have cleaned := simulates.firstFailing test.cleanup executed.related
    simp only [Test.attempt, one, two]
    exact ⟨by rw [executed.answer, cleaned.answer], cleaned.related⟩

/-- A run of a test comes to the same. -/
theorem run (simulates : host.Simulates twin Related) (test : Test) (invocation : Invocation)
    (limit : Duration) (related : Related state other) :
    Agree Related (test.run host invocation limit state)
      (test.run twin invocation limit other) := by
  -- What is recorded and judged depends on the attempt alone.
  have attempted := simulates.attempt test invocation limit related
  simp only [Test.run_eq]
  exact ⟨by rw [attempted.answer], attempted.related⟩

/-- A run of tests comes to the same. -/
theorem runTests (simulates : host.Simulates twin Related) (registry : Registry) (mode : Mode)
    (invocation : Invocation) (limit : Duration) (allowed : Option Nat) (tests : List Test)
    (related : Related state other) :
    Agree Related (Suite.runTests host registry mode invocation limit allowed tests state)
      (Suite.runTests twin registry mode invocation limit allowed tests other) := by
  -- The first test is left out, passes or fails on both hosts.
  induction tests generalizing allowed state other with
  | nil => exact ⟨rfl, related⟩
  | cons test rest ih =>
    rcases two : test.run twin invocation limit other with ⟨⟨outcome, after⟩, further⟩
    obtain ⟨next, one, kept⟩ := (simulates.run test invocation limit related).exists_left two
    have goesOn (left : Option Nat) := ih left kept
    have passesOver := ih allowed related
    cases suits : mode.suits test with
    | false =>
      -- A test that does not suit makes no call.
      simp only [Suite.runTests, suits]
      exact ⟨by simp [passesOver.answer], passesOver.related⟩
    | true =>
      cases outcome with
      | passed =>
        simp only [Suite.runTests, suits, one, two]
        exact ⟨by simp [(goesOn allowed).answer], (goesOn allowed).related⟩
      | failed failure =>
        simp only [Suite.runTests, suits, one, two]
        -- The failure is the last one that is allowed, or the others are run.
        by_cases last : allowed = some 1
        · simpa [last] using ⟨rfl, kept⟩
        · simp only [last, if_false]
          exact ⟨by simp [(goesOn _).answer], (goesOn _).related⟩

/-- A run of a suite comes to the same. -/
theorem runSuite (simulates : host.Simulates twin Related) (suite : Suite) (options : RunOptions)
    (invocation : Invocation) (related : Related state other) :
    Agree Related (suite.run host options invocation state)
      (suite.run twin options invocation other) := by
  unfold Suite.run
  -- Without a limit no test is run on either host; with one the tests are run alike.
  cases options.limit.elim suite.timeout .ok with
  | error error => exact ⟨rfl, related⟩
  | ok limit =>
    have ran := simulates.runTests suite.registry options.mode invocation limit
      (options.breakFail.filter (0 < ·)) suite.tests related
    exact ⟨by simp only [ran.answer], ran.related⟩

end Simulates

end Host

end TaggedTests
