import TaggedTests.Decimal
import TaggedTests.Duration

/-!
A number of seconds read as a binary64 value.

The decimal is rounded to the nearest binary64 value, and that value to whole nanoseconds; a half
goes to the even neighbour both times.
-/

namespace TaggedTests

namespace Duration

/-- Reads an unsigned number: a decimal, an infinity or the mark of no number, in any case. -/
def readMagnitude? (text : Text) : Option BinaryFloat :=
  let word := text.map Char.toLower
  if word = "inf".toList ∨ word = "infinity".toList then some .infinite
  else if word = "nan".toList then some .notANumber
  else (Decimal.read? text).map (Decimal.nearest .binary64)

/-- Reads a number with an optional sign, giving whether it is negative and its magnitude. -/
def readNumber? (text : Text) : Option (Bool × BinaryFloat) :=
  let (negative, unsigned) := Decimal.splitSign text
  (readMagnitude? unsigned).map (negative, ·)

/-- Why a number of seconds is no length of time. -/
inductive SecondsError where
  | negative
  | tooLargeOrNotANumber
  deriving DecidableEq, Repr

/-- The wording of an error of seconds. -/
def SecondsError.message : SecondsError → Text
  | negative => "cannot convert float seconds to Duration: value is negative".toList
  | tooLargeOrNotANumber =>
    "cannot convert float seconds to Duration: value is either too big or NaN".toList

/-- The whole nanoseconds nearest to a number of seconds, which has to stay below 2 ^ 64. -/
def ofSeconds : Bool × BinaryFloat → Except SecondsError Duration
  | (_, .finite 0 _) => .ok ⟨0⟩
  | (_, .notANumber) => .error .tooLargeOrNotANumber
  | (true, _) => .error .negative
  | (false, .infinite) => .error .tooLargeOrNotANumber
  | (false, .finite mantissa exponent) =>
    -- One of the two powers is one, as the exponent has one sign.
    let num := mantissa * Nat.pow 2 exponent.toNat
    let den := Nat.pow 2 (-exponent).toNat
    if Nat.pow 2 64 * den ≤ num then .error .tooLargeOrNotANumber
    else .ok ⟨roundDiv (num * perSecond) den⟩

end Duration

end TaggedTests
