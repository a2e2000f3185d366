import TaggedTests.Text.Basic

/-! Decimal integers of a bounded range, written and read. -/

namespace TaggedTests

namespace Text

/-- The decimal digits of a natural number. -/
def ofNat (n : Nat) : Text := Nat.toDigits 10 n

/-- An integer in decimal, with a minus sign when it is negative. -/
def ofInt : Int → Text
  | .ofNat n => ofNat n
  | .negSucc n => '-' :: ofNat (n + 1)

/-- The value of a decimal digit. -/
def digit? (c : Char) : Option Nat :=
  if '0' ≤ c ∧ c ≤ '9' then some (c.toNat - '0'.toNat) else none

/-- The value of a hexadecimal digit. -/
def hexDigit? (c : Char) : Option Nat :=
  if '0' ≤ c ∧ c ≤ '9' then some (c.toNat - '0'.toNat)
  else if 'a' ≤ c ∧ c ≤ 'f' then some (c.toNat - 'a'.toNat + 10)
  else if 'A' ≤ c ∧ c ≤ 'F' then some (c.toNat - 'A'.toNat + 10)
  else none

/-- The natural number that digits make up in a base. -/
def ofDigits (base : Nat) (digits : List Nat) : Nat :=
  digits.foldl (fun value digit => value * base + digit) 0

end Text

/-- Why a text is no integer of a given range. -/
inductive IntegerError where
  | empty
  | invalidDigit
  | tooLarge
  | tooSmall
  deriving DecidableEq, Repr

namespace IntegerError

/-- The wording of an integer error. -/
def message : IntegerError → Text
  | empty => "cannot parse integer from empty string".toList
  | invalidDigit => "invalid digit found in string".toList
  | tooLarge => "number too large to fit in target type".toList
  | tooSmall => "number too small to fit in target type".toList

end IntegerError

/-- Integers from `low` to `high`. -/
structure IntegerRange where
  low : Int
  high : Int

namespace IntegerRange

/-- Signed integers of 64 bits. -/
def int64 : IntegerRange := ⟨-9223372036854775808, 9223372036854775807⟩

/-- Signed integers of 32 bits. -/
def int32 : IntegerRange := ⟨-2147483648, 2147483647⟩

/-- Natural numbers of 64 bits. -/
def nat64 : IntegerRange := ⟨0, 18446744073709551615⟩

/-- Reads digits after a sign, refusing at the first character that is no digit or leaves the
range. -/
def readDigits (range : IntegerRange) (negative : Bool) : Int → Text → Except IntegerError Int
  | value, [] => .ok value
  | value, c :: rest =>
    match Text.digit? c with
    | none => .error .invalidDigit
    | some d =>
      let next := if negative then value * 10 - d else value * 10 + d
      if next < range.low then .error .tooSmall
      else if range.high < next then .error .tooLarge
      else readDigits range negative next rest

/--
Reads a decimal integer of the range.

A plus sign is always allowed, a minus sign where the range has negative numbers.
-/
def read (range : IntegerRange) : Text → Except IntegerError Int
  | [] => .error .empty
  | ['+'] => .error .invalidDigit
  | ['-'] => .error .invalidDigit
  | '+' :: digits => range.readDigits false 0 digits
  | '-' :: digits =>
    if range.low < 0 then range.readDigits true 0 digits else .error .invalidDigit
  | digits => range.readDigits false 0 digits

end IntegerRange

end TaggedTests
