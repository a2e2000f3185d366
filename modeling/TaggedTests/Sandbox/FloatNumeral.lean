import TaggedTests.Decimal
import TaggedTests.Sandbox.Numeral

/-!
Floating-point numbers as programs take them from a text: blanks, a sign, and a number as far as it
goes, decimal or hexadecimal.
-/

namespace TaggedTests

/-- A floating-point number at the front of a text. -/
structure FloatNumeral where
  negative : Bool
  magnitude : BinaryFloat
  /-- Does the number lie in the range of its format, where it keeps all its bits? -/
  fits : Bool
  rest : Text
  deriving DecidableEq, Repr

namespace FloatNumeral

/-- Digits of a base around a point. -/
structure Digits where
  /-- The value of all digits. -/
  value : Nat
  /-- The number of digits behind the point. -/
  places : Nat
  rest : Text

/-- Reads digits of a base around a point; there has to be one. -/
def digits? (base : Nat) (digit? : Char → Option Nat) (text : Text) : Option Digits :=
  let isDigit (c : Char) : Bool := (digit? c).isSome
  let whole := text.takeWhile isDigit
  let behind := text.dropWhile isDigit
  let (fraction, rest) :=
    match behind with
    | '.' :: more => (more.takeWhile isDigit, more.dropWhile isDigit)
    | _ => ([], behind)
  if whole.isEmpty ∧ fraction.isEmpty then none
  else some ⟨Text.ofDigits base ((whole ++ fraction).filterMap digit?), fraction.length, rest⟩

/-- Reads an exponent behind one of two letters, which is nought where there is none. -/
def exponent (small capital : Char) (text : Text) : Int × Text :=
  match text with
  | letter :: more =>
    let (negative, unsigned) := Decimal.splitSign more
    let written := unsigned.takeWhile Decimal.isDigit
    if (letter = small ∨ letter = capital) ∧ !written.isEmpty then
      let value := Int.ofNat (Decimal.digitsValue written)
      (if negative then -value else value, unsigned.drop written.length)
    else (0, text)
  | [] => (0, [])

/-- Is the number nearest to a positive quotient finite, and kept with all bits of a mantissa? -/
def isKept (format : BinaryFormat) (num den : Nat) : BinaryFloat → Bool
  | .finite mantissa exponent =>
    -- A mantissa with fewer bits has to be exact.
    Nat.pow 2 (format.bits - 1) ≤ mantissa ||
      mantissa * Nat.pow 2 exponent.toNat * den = num * Nat.pow 2 (-exponent).toNat
  | _ => false

/-- The number of a format nearest to a quotient, and whether it is kept. -/
def rounded (format : BinaryFormat) (num den : Nat) : BinaryFloat × Bool :=
  let magnitude := format.nearest num den
  (magnitude, num = 0 || isKept format num den magnitude)

/-- The number nearest to a decimal. -/
def ofDecimal (format : BinaryFormat) (decimal : Decimal) : BinaryFloat × Bool :=
  let length : Int := (Text.ofNat decimal.digits).length
  -- Exponents far outside the range are not expanded.
  if decimal.digits = 0 then (.finite 0 0, true)
  else if (format.greatest + format.bits) / 3 < length + decimal.exponent then (.infinite, false)
  else if length + decimal.exponent < format.least / 3 then (.finite 0 0, false)
  else
    rounded format (decimal.digits * Nat.pow 10 decimal.exponent.toNat)
      (Nat.pow 10 (-decimal.exponent).toNat)

/-- The number nearest to a natural number times a power of two. -/
def ofPower (format : BinaryFormat) (value : Nat) (power : Int) : BinaryFloat × Bool :=
  let length : Int := value.log2
  if value = 0 then (.finite 0 0, true)
  else if format.greatest + format.bits < length + power then (.infinite, false)
  else if length + power < format.least - 2 then (.finite 0 0, false)
  else rounded format (value * Nat.pow 2 power.toNat) (Nat.pow 2 (-power).toNat)

/-- What follows a word in any case. -/
def afterWord? (word : String) (text : Text) : Option Text :=
  let front := text.take word.length
  if front.map Char.toLower = word.toList then some (text.drop word.length) else none

/-- What follows the mark of no number: it may be told which in brackets. -/
def afterMark (text : Text) : Text :=
  match text with
  | '(' :: more =>
    match more.dropWhile fun c => c.isAlphanum || c = '_' with
    | ')' :: rest => rest
    | _ => text
  | _ => text

/-- Reads an unsigned decimal number. -/
def decimal? (format : BinaryFormat) (text : Text) : Option ((BinaryFloat × Bool) × Text) := do
  let digits ← digits? 10 Text.digit? text
  let (power, rest) := exponent 'e' 'E' digits.rest
  return (ofDecimal format ⟨digits.value, power - digits.places⟩, rest)

/-- Reads an unsigned hexadecimal number, from behind the letters that announce it. -/
def hexadecimal? (format : BinaryFormat) (text : Text) :
    Option ((BinaryFloat × Bool) × Text) := do
  let digits ← digits? 16 Text.hexDigit? text
  let (power, rest) := exponent 'p' 'P' digits.rest
  return (ofPower format digits.value (power - 4 * digits.places), rest)

/-- Reads an unsigned number. -/
def unsigned? (format : BinaryFormat) (text : Text) : Option ((BinaryFloat × Bool) × Text) :=
  match afterWord? "infinity" text <|> afterWord? "inf" text with
  | some rest => some ((.infinite, true), rest)
  | none =>
    match afterWord? "nan" text with
    | some rest => some ((.notANumber, true), afterMark rest)
    | none =>
      (afterWord? "0x" text >>= hexadecimal? format).orElse fun _ => decimal? format text

/-- Reads a number. -/
def read? (format : BinaryFormat) (text : Text) : Option FloatNumeral :=
  let (negative, unsigned) := Decimal.splitSign (text.dropWhile Numeral.isBlank)
  (unsigned? format unsigned).map fun ((magnitude, fits), rest) =>
    ⟨negative, magnitude, fits, rest⟩

end FloatNumeral

end TaggedTests
