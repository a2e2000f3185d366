import TaggedTests.Decimal
import TaggedTests.Toml.Reading

/-!
Numbers of a TOML document.

Single underscores may stand between two digits. A fraction has digits on both sides of its point.
-/

namespace TaggedTests

namespace Toml

/-- Reads digits of a kind behind a first one, with an underscore before any of them. -/
def moreDigits (isDigit : Char → Bool) : Reader Text :=
  Reader.many (Reader.one isDigit <|> do
    Reader.exactly ['_']
    (Reader.one isDigit).required.expecting [.digit])

/-- Reads digits of a kind, of which there is at least one. -/
def digits (isDigit : Char → Bool) : Reader Text := do
  let first ← Reader.one isDigit
  return first :: (← moreDigits isDigit)

/-- Reads a sign, telling whether it is a minus. -/
def sign : Reader Bool := do
  let sign ← (Reader.one fun c => c = '+' || c = '-').optional
  return sign = some '-'

/-- Reads a whole decimal number as its sign and digits, which no zero begins but a single one. -/
def whole : Reader (Bool × Text) :=
  Reader.inside .integer do
    let negative ← sign
    let nonzero ← (Reader.one fun c => Decimal.isDigit c && c ≠ '0').optional
    match nonzero with
    | some first => return (negative, first :: (← moreDigits Decimal.isDigit))
    | none => return (negative, [← Reader.one Decimal.isDigit])

/-- An integer if it fits into 64 bits. -/
def fitted (value : Int) : Except Fault Int :=
  if value < IntegerRange.int64.low then .error (.number .tooSmall)
  else if IntegerRange.int64.high < value then .error (.number .tooLarge)
  else .ok value

/-- Reads an integer in a base behind the letters that announce it. -/
def integerIn (base : Nat) (letters : Text) (part : Part) : Reader Int :=
  Reader.required <| Reader.checked do
    let written ← Reader.inside part do
      Reader.exactly letters
      (digits fun c => (Text.hexDigit? c).any (· < base)).required
    return fitted (Text.ofDigits base (written.filterMap Text.hexDigit?))

/-- Reads a decimal integer. -/
def decimalInteger : Reader Int := fun text =>
  match whole text with
  | .found (negative, written) rest =>
    let value := Int.ofNat (Decimal.digitsValue written)
    match fitted (if negative then -value else value) with
    | .ok value => .found value rest
    | .error fault => (Reader.fault fault).required text
  | .missing trouble => .missing trouble
  | .wrong trouble => .wrong trouble

/-- Reads an integer; only one without a sign may have another base than ten. -/
def integer : Reader Int := fun text =>
  match text with
  | '0' :: 'x' :: _ => integerIn 16 ['0', 'x'] .hexadecimal text
  | '0' :: 'o' :: _ => integerIn 8 ['0', 'o'] .octal text
  | '0' :: 'b' :: _ => integerIn 2 ['0', 'b'] .binary text
  | _ => decimalInteger text

/-- Reads the part of a number from its point on. -/
def fraction : Reader Text := do
  Reader.exactly ['.']
  (digits Decimal.isDigit).required.expecting [.digit]

/-- Reads the exponent of a number from its letter on. -/
def exponent : Reader Int := do
  let _ ← Reader.one fun c => c = 'e' || c = 'E'
  let negative ← sign
  let written ← (digits Decimal.isDigit).required
  let value := Int.ofNat (Decimal.digitsValue written)
  return if negative then -value else value

/-- Reads a decimal with an exponent, a fraction or both. -/
def decimal : Reader (Bool × Decimal) := do
  let (negative, written) ← whole
  match ← exponent.optional with
  | some power => return (negative, .ofParts written [] power)
  | none =>
    let behindPoint ← fraction
    let power ← exponent.optional
    return (negative, .ofParts written behindPoint (power.getD 0))

/-- Reads a decimal as its sign and the nearest floating-point number; only a negative one may be
too large. -/
def finiteFloat : Reader (Bool × BinaryFloat) := fun text =>
  match decimal text with
  | .found (negative, decimal) rest =>
    let value := decimal.nearest .binary64
    if !negative ∧ value = .infinite then Reader.nothing.required text
    else .found (negative, value) rest
  | .missing trouble => .missing trouble
  | .wrong trouble => .wrong trouble

/-- Reads an infinity or the mark of no number, with a sign or without. -/
def specialFloat : Reader (Bool × BinaryFloat) := do
  let negative ← sign
  (do Reader.exactly "inf".toList; return (negative, .infinite)) <|>
  (do Reader.exactly "nan".toList; return (negative, .notANumber))

/-- Reads a floating-point number as its sign and magnitude. -/
def float : Reader (Bool × BinaryFloat) := Reader.inside .float (finiteFloat <|> specialFloat)

end Toml

end TaggedTests
