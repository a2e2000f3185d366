import TaggedTests.Text.Basic

/-! Lengths of time in whole nanoseconds. -/

namespace TaggedTests

/-- A length of time. -/
structure Duration where
  nanos : Nat
  deriving DecidableEq, Repr

namespace Duration

/-- Nanoseconds in a second. -/
def perSecond : Nat := 1000000000

/-- The length of a number of milliseconds. -/
def ofMillis (millis : Nat) : Duration := ⟨millis * 1000000⟩

/-- Whole seconds of a length of time. -/
def secs (duration : Duration) : Nat := duration.nanos / perSecond

/-- Nanoseconds beyond the whole seconds. -/
def subsecNanos (duration : Duration) : Nat := duration.nanos % perSecond

end Duration

end TaggedTests
