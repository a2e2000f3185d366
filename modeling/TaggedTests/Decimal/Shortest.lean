import TaggedTests.Decimal

/-!
The decimal with the fewest digits that is nearest to a number of binary64 and to no other.

Decimals with more and more digits are tried, of each length the two neighbours of the value.
-/

namespace TaggedTests

/-- A quotient of natural numbers, of which the second is positive. -/
structure Quotient where
  num : Nat
  den : Nat
  deriving DecidableEq, Repr

namespace Quotient

/-- The quotient times a power of ten. -/
def scale (q : Quotient) (power : Int) : Quotient :=
  ⟨q.num * Nat.pow 10 power.toNat, q.den * Nat.pow 10 (-power).toNat⟩

/-- The largest power of ten that is at most a positive quotient, as its exponent. -/
def floorLog10 (q : Quotient) : Int :=
  let guess : Int := ((Text.ofNat q.num).length : Int) - (Text.ofNat q.den).length
  -- The lengths of the two numbers leave one digit of doubt.
  let scaled := q.scale (-guess)
  if scaled.num < scaled.den then guess - 1 else guess

end Quotient

namespace BinaryFloat

/-- The values that a number of binary64 stands for, as quotients with one denominator. -/
structure Span where
  low : Nat
  value : Nat
  high : Nat
  den : Nat
  /-- Do the ends belong to it? -/
  isClosed : Bool

/-- The values nearest to `mantissa * 2 ^ exponent`. -/
def span (mantissa : Nat) (exponent : Int) : Span :=
  let unit := Nat.pow 2 (exponent - 2).toNat
  -- Below a power of two the neighbour is half as far away.
  let below := if mantissa = Nat.pow 2 52 ∧ -1074 < exponent then 1 else 2
  { low := (4 * mantissa - below) * unit
    value := 4 * mantissa * unit
    high := (4 * mantissa + 2) * unit
    den := Nat.pow 2 (2 - exponent).toNat
    isClosed := mantissa % 2 = 0 }

/-- Does a span hold a multiple of a power of ten? -/
def Span.holds (span : Span) (power : Int) (count : Nat) : Bool :=
  let up := Nat.pow 10 (-power).toNat
  let place := count * Nat.pow 10 power.toNat * span.den
  if span.isClosed then span.low * up ≤ place && place ≤ span.high * up
  else span.low * up < place && place < span.high * up

/-- The multiple of a power of ten in a span that is nearest to its value. -/
def Span.multiple? (span : Span) (power : Int) : Option Nat :=
  let scaled := Quotient.scale ⟨span.value, span.den⟩ (-power)
  let count := scaled.num / scaled.den
  let isNearAbove := scaled.den < 2 * (scaled.num % scaled.den)
  match span.holds power count, span.holds power (count + 1) with
  | true, true => some (if isNearAbove then count + 1 else count)
  | true, false => some count
  | false, true => some (count + 1)
  | false, false => none

/-- The first multiple in a span, trying a number of powers of ten from one downwards. -/
def Span.firstMultiple (span : Span) : Nat → Int → Decimal
  | 0, power => ⟨span.value / span.den, power⟩
  | fuel + 1, power =>
    match span.multiple? power with
    | some count => ⟨count, power⟩
    | none => span.firstMultiple fuel (power - 1)

/-- The shortest decimal that is nearest to `mantissa * 2 ^ exponent`. -/
def shortest (mantissa : Nat) (exponent : Int) : Decimal :=
  if mantissa = 0 then ⟨0, 0⟩ else
    let span := span mantissa exponent
    -- Seventeen digits tell every value from all others.
    span.firstMultiple 17 (Quotient.floorLog10 ⟨span.value, span.den⟩)

end BinaryFloat

namespace Decimal

/-- A decimal in digits around a point, of which there is at least one on each side. -/
def written (decimal : Decimal) : Text :=
  let digits := Text.ofNat decimal.digits ++ List.replicate decimal.exponent.toNat '0'
  let places := (-decimal.exponent).toNat
  let padded := List.replicate (places + 1 - digits.length) '0' ++ digits
  let whole := padded.take (padded.length - places)
  let fraction := padded.drop (padded.length - places)
  whole ++ '.' :: (if fraction.isEmpty then ['0'] else fraction)

end Decimal

/-- A number of binary64 and its sign in the fewest digits that tell it from all others. -/
def BinaryFloat.written (negative : Bool) (magnitude : BinaryFloat) : Text :=
  let signed (text : Text) : Text := if negative then '-' :: text else text
  match magnitude with
  | finite mantissa exponent => signed (shortest mantissa exponent).written
  | infinite => signed "inf".toList
  | notANumber => "NaN".toList

end TaggedTests
