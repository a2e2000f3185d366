import TaggedTests.Text.Integer

/-! Integers as programs take them from a text: blanks, a sign, and digits as far as they go. -/

namespace TaggedTests

/-- An integer at the front of a text. -/
structure Numeral where
  /-- The integer, or the end of the range of 64 bits that it lies beyond. -/
  value : Int
  /-- Does the integer lie in the range? -/
  fits : Bool
  rest : Text
  deriving DecidableEq, Repr

namespace Numeral

/-- Is the character a blank in front of an integer? -/
def isBlank (c : Char) : Bool := c = ' ' || ('\t' ≤ c && c ≤ '\r')

/-- The value of an octal digit. -/
def octalDigit? (c : Char) : Option Nat :=
  if '0' ≤ c ∧ c ≤ '7' then some (c.toNat - '0'.toNat) else none

/-- The natural number that the digits at the front of a text make up in a base, if there
are any. -/
def digits? (base : Nat) (digit? : Char → Option Nat) (text : Text) : Option (Nat × Text) :=
  let digits := text.takeWhile fun c => (digit? c).isSome
  if digits.isEmpty then none
  else some (Text.ofDigits base (digits.filterMap digit?), text.drop digits.length)

/-- Reads a natural number in the base that its beginning shows: hexadecimal, octal or decimal. -/
def natural? (text : Text) : Option (Nat × Text) :=
  match text with
  | '0' :: 'x' :: rest | '0' :: 'X' :: rest =>
    (digits? 16 Text.hexDigit? rest).orElse fun _ => some (0, text.drop 1)
  | '0' :: _ => digits? 8 octalDigit? text
  | _ => digits? 10 Text.digit? text

/-- An integer brought into the range of 64 bits, and what follows it. -/
def ofInt (n : Int) (rest : Text) : Numeral :=
  let range := IntegerRange.int64
  ⟨max range.low (min n range.high), range.low ≤ n && n ≤ range.high, rest⟩

/-- Reads an integer, in decimal unless its beginning may show another base. -/
def read? (anyBase : Bool) (text : Text) : Option Numeral :=
  let unsigned? (digits : Text) :=
    if anyBase then natural? digits else digits? 10 Text.digit? digits
  match text.dropWhile isBlank with
  | '-' :: digits => (unsigned? digits).map fun (n, rest) => ofInt (-n) rest
  | '+' :: digits => (unsigned? digits).map fun (n, rest) => ofInt n rest
  | digits => (unsigned? digits).map fun (n, rest) => ofInt n rest

/-- A natural number of 64 bits, which a minus sign turns into its complement, and what follows
it. -/
def ofNatural (negative : Bool) (n : Nat) (rest : Text) : Numeral :=
  let limit := Nat.pow 2 64
  if limit ≤ n then ⟨limit - 1, false, rest⟩
  else ⟨if negative then (limit - n) % limit else n, true, rest⟩

/-- Reads a natural number of 64 bits, in decimal unless its beginning may show another base. -/
def readUnsigned? (anyBase : Bool) (text : Text) : Option Numeral :=
  let unsigned? (digits : Text) :=
    if anyBase then natural? digits else digits? 10 Text.digit? digits
  match text.dropWhile isBlank with
  | '-' :: digits => (unsigned? digits).map fun (n, rest) => ofNatural true n rest
  | '+' :: digits => (unsigned? digits).map fun (n, rest) => ofNatural false n rest
  | digits => (unsigned? digits).map fun (n, rest) => ofNatural false n rest

/-- The integer that a whole text stands for, blanks behind it left aside. -/
def whole? (anyBase : Bool) (text : Text) : Option Int :=
  match read? anyBase text with
  | some numeral => if numeral.fits ∧ numeral.rest.all isBlank then some numeral.value else none
  | none => none

end Numeral

end TaggedTests
