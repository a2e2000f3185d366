import TaggedTests.Text.Integer

/-! Decimal numbers, and the binary floating-point numbers nearest to them. -/

namespace TaggedTests

/-- The quotient of two natural numbers, rounded to the nearest; a half goes to the even
neighbour. -/
def roundDiv (num den : Nat) : Nat :=
  let quotient := num / den
  let double := 2 * (num % den)
  if double < den then quotient
  else if den < double then quotient + 1
  else quotient + quotient % 2

/-- A number of a binary floating-point format, up to its sign. -/
inductive BinaryFloat where
  /-- The value `mantissa * 2 ^ exponent`. -/
  | finite (mantissa : Nat) (exponent : Int)
  | infinite
  | notANumber
  deriving DecidableEq, Repr

/-- A binary floating-point format. -/
structure BinaryFormat where
  /-- The number of bits of a mantissa. -/
  bits : Nat
  /-- The least exponent of a mantissa. -/
  least : Int
  /-- The greatest exponent of a mantissa. -/
  greatest : Int
  deriving DecidableEq, Repr

namespace BinaryFormat

/-- The format of sixty-four bits. -/
def binary64 : BinaryFormat := ⟨53, -1074, 971⟩

/-- The format of eighty bits. -/
def extended : BinaryFormat := ⟨64, -16445, 16320⟩

/-- The largest power of two that is at most the quotient of two positive numbers, as its
exponent. -/
def floorLog2 (num den : Nat) : Int :=
  let guess : Int := (num.log2 : Int) - den.log2
  -- The logarithms of the two numbers leave one bit of doubt.
  let scaledNum := num * Nat.pow 2 (-guess).toNat
  let scaledDen := den * Nat.pow 2 guess.toNat
  if scaledNum < scaledDen then guess - 1 else guess

/-- The number of the format nearest to a quotient. -/
def nearest (format : BinaryFormat) (num den : Nat) : BinaryFloat :=
  if num = 0 then .finite 0 0 else
    -- Mantissas have fewer bits below the least normal exponent.
    let exponent := max (floorLog2 num den - (format.bits - 1)) format.least
    let mantissa :=
      roundDiv (num * Nat.pow 2 (-exponent).toNat) (den * Nat.pow 2 exponent.toNat)
    -- Rounding may carry into one bit more.
    let (kept, power) :=
      if mantissa = Nat.pow 2 format.bits then (mantissa / 2, exponent + 1)
      else (mantissa, exponent)
    if format.greatest < power then .infinite else .finite kept power

end BinaryFormat

/-- A decimal number `digits * 10 ^ exponent`. -/
structure Decimal where
  digits : Nat
  exponent : Int
  deriving DecidableEq, Repr

namespace Decimal

/-- The value of a run of digits. -/
def digitsValue (digits : Text) : Nat :=
  digits.foldl (fun value c => value * 10 + (Text.digit? c).getD 0) 0

/-- Is the character a decimal digit? -/
def isDigit (c : Char) : Bool := (Text.digit? c).isSome

/-- The decimal that is written with digits before and behind a point and with an exponent. -/
def ofParts (whole fraction : Text) (exponent : Int) : Decimal :=
  ⟨digitsValue (whole ++ fraction), exponent - fraction.length⟩

/-- The number of a format nearest to a decimal, without expanding exponents that cannot matter. -/
def nearest (format : BinaryFormat) (decimal : Decimal) : BinaryFloat :=
  -- Far outside the range of the format the value is known from the number of digits alone.
  let length : Int := (Text.ofNat decimal.digits).length
  if decimal.digits = 0 then .finite 0 0
  else if (format.greatest + format.bits) / 3 < length + decimal.exponent then .infinite
  else if length + decimal.exponent < format.least / 3 then .finite 0 0
  else
    format.nearest (decimal.digits * Nat.pow 10 decimal.exponent.toNat)
      (Nat.pow 10 (-decimal.exponent).toNat)

/-- Takes a sign off a number, telling whether it is a minus. -/
def splitSign : Text → Bool × Text
  | '-' :: rest => (true, rest)
  | '+' :: rest => (false, rest)
  | text => (false, text)

/-- Reads the exponent part of a decimal: nothing, or `e` with an optional sign and digits. -/
def readExponent? : Text → Option Int
  | [] => some 0
  | e :: rest =>
    if e = 'e' ∨ e = 'E' then
      let (negative, digits) := splitSign rest
      if digits ≠ [] ∧ digits.all isDigit then
        let value : Int := digitsValue digits
        some (if negative then -value else value)
      else none
    else none

/-- Reads an unsigned decimal: digits around an optional point, and an optional exponent. -/
def read? (text : Text) : Option Decimal :=
  let whole := text.takeWhile isDigit
  let rest := text.dropWhile isDigit
  let (fraction, tail) :=
    match rest with
    | '.' :: more => (more.takeWhile isDigit, more.dropWhile isDigit)
    | _ => ([], rest)
  if whole = [] ∧ fraction = [] then none
  else (readExponent? tail).map (ofParts whole fraction)

end Decimal

end TaggedTests
