import TaggedTests.Decimal.Shortest
import TaggedTests.Sandbox.Tool.Layout

/-!
How formatted output lays out floating-point numbers.

The value is exact, and rounded once to the digits that are shown; a half goes to the even
neighbour.
-/

namespace TaggedTests

namespace Printf

/-- Digits with a point in front of the last ones; a point without digits behind it is shown only
if that is wanted. -/
def pointed (layout : Layout) (places : Nat) (digits : Text) : Text :=
  let padded := List.replicate (places + 1 - digits.length) '0' ++ digits
  let fraction := padded.drop (padded.length - places)
  padded.take (padded.length - places) ++
    if fraction.isEmpty ∧ !layout.alternate then [] else '.' :: fraction

/-- A value with a number of digits behind the point. -/
def fixed (layout : Layout) (places : Nat) (value : Quotient) : Text :=
  pointed layout places (Text.ofNat (roundDiv (value.num * Nat.pow 10 places) value.den))

/-- The digits of a value behind its first one, and the power of ten that the first one counts. -/
def scientificDigits (places : Nat) (value : Quotient) : Nat × Int :=
  if value.num = 0 then (0, 0) else
    let power := value.floorLog10
    let scaled := value.scale (places - power)
    let count := roundDiv scaled.num scaled.den
    if count = Nat.pow 10 (places + 1) then (count / 10, power + 1) else (count, power)

/-- An exponent with a letter, its sign and a number of digits at least. -/
def exponentText (letter : Char) (width : Nat) (power : Int) : Text :=
  let digits := Text.ofNat power.natAbs
  letter :: (if power < 0 then '-' else '+') ::
    List.replicate (width - digits.length) '0' ++ digits

/-- A value as a number with one digit in front of the point, and a power of ten. -/
def scientific (layout : Layout) (places : Nat) (value : Quotient) : Text :=
  let (count, power) := scientificDigits places value
  pointed layout places (Text.ofNat count) ++ exponentText 'e' 2 power

/-- Digits without the noughts that end them behind a point. -/
def withoutEndingNoughts (text : Text) : Text :=
  if !text.elem '.' then text
  else
    let rest := text.reverse.dropWhile (· = '0')
    (if rest.head? = some '.' then rest.drop 1 else rest).reverse

/-- A value with a number of digits in all, as a power of ten where it is far from one. -/
def general (layout : Layout) (precision : Nat) (value : Quotient) : Text :=
  let wanted := max 1 precision
  let (count, power) := scientificDigits (wanted - 1) value
  let shorten (text : Text) : Text := if layout.alternate then text else withoutEndingNoughts text
  if -4 ≤ power ∧ power < wanted then shorten (fixed layout (wanted - 1 - power).toNat value)
  else shorten (pointed layout (wanted - 1) (Text.ofNat count)) ++ exponentText 'e' 2 power

/-- A number in hexadecimal digits, of which those behind the point make up a number of bits. -/
def hexadecimal (layout : Layout) (bits mantissa : Nat) (exponent : Int) : Text :=
  let places := bits / 4
  -- Digits that are not wanted are rounded away.
  let shown := min places (layout.precision.getD places)
  let count := roundDiv mantissa (Nat.pow 16 (places - shown))
  let isCarried := Nat.pow 16 (shown + 1) ≤ count
  let digits := Nat.toDigits 16 (if isCarried then count / 16 else count)
  let power : Int := if mantissa = 0 then 0 else exponent + bits + if isCarried then 4 else 0
  let written := pointed layout shown digits
  let exact := withoutEndingNoughts written
  let kept :=
    if layout.precision.isSome then written
    else if layout.alternate ∧ !exact.elem '.' then exact ++ ['.'] else exact
  kept ++ List.replicate (layout.precision.getD 0 - shown) '0' ++ exponentText 'p' 1 power

/-- The mantissa of a number of a format with all its bits, and its exponent. -/
def fullMantissa (format : BinaryFormat) (mantissa : Nat) (exponent : Int) : Nat × Int :=
  if mantissa = 0 then (0, 0) else
    let missing := min (format.bits - 1 - mantissa.log2) (exponent - format.least).toNat
    (mantissa * Nat.pow 2 missing, exponent - missing)

/-- A finite number under a directive in small letters, without a sign. -/
def finiteText (format : BinaryFormat) (layout : Layout) (directive : Char) (mantissa : Nat)
    (exponent : Int) : Text :=
  let value : Quotient :=
    ⟨mantissa * Nat.pow 2 exponent.toNat, Nat.pow 2 (-exponent).toNat⟩
  let precision := layout.precision.getD 6
  match directive with
  | 'f' => fixed layout precision value
  | 'e' => scientific layout precision value
  | 'g' => general layout precision value
  | _ =>
    let (full, power) := fullMantissa format mantissa exponent
    -- The bits behind the point fill whole digits.
    hexadecimal layout ((format.bits - 1) / 4 * 4) full power

/-- The bytes of a floating-point number under a directive. -/
def Layout.float (format : BinaryFormat) (layout : Layout) (directive : Char) (negative : Bool)
    (magnitude : BinaryFloat) : Bytes :=
  let small := directive.toLower
  let cased (text : Text) : Text := if small = directive then text else text.map Char.toUpper
  let sign := layout.sign negative
  match magnitude with
  | .finite mantissa exponent =>
    let mark := if small = 'a' then "0x".toList else []
    -- The precision is used up, and all that is left to fill is the width.
    let filled := { layout with precision := none }
    filled.number (sign ++ cased mark) (cased (finiteText format layout small mantissa exponent))
  | .infinite => layout.aligned (Text.utf8 (sign ++ cased "inf".toList))
  | .notANumber => layout.aligned (Text.utf8 (sign ++ cased "nan".toList))

end Printf

end TaggedTests
