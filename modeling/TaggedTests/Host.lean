import TaggedTests.Duration
import TaggedTests.Invocation

/-!
What runs hooks and programs.

A host has a state that every call may read and change, so a run is a function from one state to the
next and two runs from the same state make the same calls.
-/

namespace TaggedTests

/-- How a run of the program under test ended. -/
inductive Execution where
  /-- It ended in time, having printed a text to its two output streams together. -/
  | completed (output : Text)
  /-- It was stopped at the time limit. -/
  | timedOut
  deriving DecidableEq, Repr

/-- What a run needs of its surroundings, with states of type `σ`. -/
structure Host (σ : Type) where
  /-- Runs a shell line: its exit code, or why no shell could be started. -/
  shell : Text → σ → Except Text Int × σ
  /-- Runs a program with further arguments, an input and a time limit, or tells why it cannot. -/
  execute : Invocation → List Text → Text → Duration → σ → Except Text Execution × σ

namespace Host

variable {σ : Type}

/-- Runs shell lines in order until one does not exit with zero; that line is the answer. -/
def firstFailing (host : Host σ) : List Text → σ → Option Text × σ
  | [], state => (none, state)
  | line :: rest, state =>
    match host.shell line state with
    | (.ok 0, next) => host.firstFailing rest next
    | (_, next) => (some line, next)

end Host

end TaggedTests
