import TaggedTests.Host

/-! Hosts that keep a record of their calls. -/

namespace TaggedTests

/-- A call to a host. -/
inductive Call where
  | hook (line : Text)
  | program (invocation : Invocation) (args : List Text) (stdin : Text) (limit : Duration)
  deriving DecidableEq, Repr

namespace Host

variable {σ : Type}

/-- The host with the calls made so far, in order, beside its state. -/
def recorded (host : Host σ) : Host (List Call × σ) where
  shell line state :=
    let (answer, next) := host.shell line state.2
    (answer, state.1 ++ [.hook line], next)
  execute invocation args stdin limit state :=
    let (answer, next) := host.execute invocation args stdin limit state.2
    (answer, state.1 ++ [.program invocation args stdin limit], next)

end Host

end TaggedTests
