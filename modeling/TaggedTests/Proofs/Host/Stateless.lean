import TaggedTests.Proofs.Host.Simulation

/-! Hosts whose answers depend on the question alone. -/

namespace TaggedTests

/-- Tests that ask the same of a host are attempted alike. -/
theorem Test.attempt_congr {σ : Type} {test other : Test} (startup : test.startup = other.startup)
    (args : test.args = other.args) (stdin : test.stdin = other.stdin)
    (cleanup : test.cleanup = other.cleanup) (host : Host σ) (invocation : Invocation)
    (limit : Duration) (state : σ) :
    test.attempt host invocation limit state = other.attempt host invocation limit state := by
  simp only [attempt, startup, args, stdin, cleanup]

namespace Host

variable {σ : Type}

/-- The state of a host makes no difference to its answers. -/
structure Stateless (host : Host σ) : Prop where
  shell : ∀ line first second, (host.shell line first).1 = (host.shell line second).1
  execute : ∀ invocation args stdin limit first second,
    (host.execute invocation args stdin limit first).1 =
      (host.execute invocation args stdin limit second).1

/-- Whatever is printed by a program that ends in time has a property. -/
def Prints (host : Host σ) (property : Text → Prop) : Prop :=
  ∀ invocation args stdin limit state output,
    (host.execute invocation args stdin limit state).1 = .ok (.completed output) → property output

namespace Stateless

variable {host : Host σ}

/-- Such a host gives the same answers in any two states. -/
theorem simulates (stateless : host.Stateless) : host.Simulates host fun _ _ => True where
  -- Any two states are related here, as no answer depends on them.
  shell line first second _ := ⟨stateless.shell line first second, trivial⟩
  execute invocation args stdin limit first second _ :=
    ⟨stateless.execute invocation args stdin limit first second, trivial⟩

/-- The state makes no difference to an attempt. -/
theorem attempt (stateless : host.Stateless) (test : Test) (invocation : Invocation)
    (limit : Duration) (first second : σ) :
    (test.attempt host invocation limit first).1 =
      (test.attempt host invocation limit second).1 :=
  (stateless.simulates.attempt test invocation limit trivial).answer

/-- The state makes no difference to what comes of a run. -/
theorem run (stateless : host.Stateless) (test : Test) (invocation : Invocation)
    (limit : Duration) (first second : σ) :
    (test.run host invocation limit first).1 = (test.run host invocation limit second).1 :=
  (stateless.simulates.run test invocation limit trivial).answer

end Stateless

end Host

end TaggedTests
