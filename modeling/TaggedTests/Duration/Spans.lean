import TaggedTests.Duration
import TaggedTests.Text.Blank
import TaggedTests.Text.Integer
import TaggedTests.Text.Utf8

/-! Lengths of time written as numbers with units, such as a day and one and a half hours. -/

namespace TaggedTests

/-- Why a text is no sum of numbers with units. -/
inductive SpanError where
  | empty
  /-- A character that cannot stand at a byte offset. -/
  | invalidCharacter (offset : Nat)
  | numberExpected (offset : Nat)
  | unitNeeded (number : Nat)
  | unknownUnit (unit : Text)
  | overflow
  deriving DecidableEq, Repr

/-- The wording of a span error. -/
def SpanError.message : SpanError → Text
  | empty => "value was empty".toList
  | invalidCharacter offset => "invalid character at ".toList ++ Text.ofNat offset
  | numberExpected offset => "expected number at ".toList ++ Text.ofNat offset
  | unitNeeded number =>
    "time unit needed, for example ".toList ++ Text.ofNat number ++ "sec or ".toList ++
      Text.ofNat number ++ "ms".toList
  | unknownUnit unit =>
    "unknown time unit \"".toList ++ unit ++
      ("\", supported units: ns, us/µs, ms, sec, min, hours, days, weeks, months, " ++
        "years (and few variations)").toList
  | overflow =>
    ("number is too large or cannot be represented without a lack of precision " ++
      "(values below 1ns are not supported)").toList

namespace Duration

/-- What one unit stands for. -/
inductive SpanUnit where
  | nanoseconds
  /-- A unit below the second, in nanoseconds. -/
  | fine (nanos : Nat)
  /-- A unit of whole seconds whose fractions may reach down to nanoseconds. -/
  | middle (secs : Nat)
  /-- A unit of whole seconds whose fractions have to be whole seconds. -/
  | coarse (secs : Nat)
  deriving DecidableEq, Repr

/-- The names of units. -/
def unitNames : List (List String × SpanUnit) :=
  [(["nanos", "nsec", "ns"], .nanoseconds),
   (["usec", "us", "µs"], .fine 1000),
   (["millis", "msec", "ms"], .fine 1000000),
   (["seconds", "second", "secs", "sec", "s"], .middle 1),
   (["minutes", "minute", "min", "mins", "m"], .middle 60),
   (["hours", "hour", "hr", "hrs", "h"], .coarse 3600),
   (["days", "day", "d"], .coarse 86400),
   (["weeks", "week", "wk", "wks", "w"], .coarse (86400 * 7)),
   (["months", "month", "M"], .coarse 2630016),
   (["years", "year", "yr", "yrs", "y"], .coarse 31557600)]

/-- The unit of a name. -/
def unit? (name : Text) : Option SpanUnit :=
  (unitNames.find? fun entry => entry.1.any fun known => known.toList = name).map (·.2)

/-- A fraction by its numerator and its denominator. -/
structure Fraction where
  num : Nat
  den : Nat

/-- Bound of all intermediate numbers. -/
def spanLimit : Nat := Nat.pow 2 64

/-- The number if it stays below the bound of 64 bits. -/
def bounded (n : Nat) : Except SpanError Nat := if n < spanLimit then .ok n else .error .overflow

/-- The part `fraction` of `scale`, which has to be a whole number. -/
def wholePart (fraction : Fraction) (scale : Nat) : Except SpanError Nat := do
  let product ← bounded (fraction.num * scale)
  if product % fraction.den = 0 then .ok (product / fraction.den) else .error .overflow

/-- Seconds and nanoseconds of a whole number of units. -/
def wholeUnits (number : Nat) : SpanUnit → Except SpanError (Nat × Nat)
  | .nanoseconds => .ok (0, number)
  | .fine nanos => (bounded (number * nanos)).map (0, ·)
  | .middle secs | .coarse secs => (bounded (number * secs)).map (·, 0)

/-- Seconds and nanoseconds of a fraction of a unit. -/
def unitPart (fraction : Fraction) : SpanUnit → Except SpanError (Nat × Nat)
  | .nanoseconds => .error .overflow
  | .fine nanos => (wholePart fraction nanos).map (0, ·)
  | .middle secs => (wholePart fraction (secs * perSecond)).map (0, ·)
  | .coarse secs => (wholePart fraction secs).map (·, 0)

/-- Adds seconds and nanoseconds to a total, neither sum of which may leave 64 bits. -/
def addMeasured (total : Nat) (measured : Nat × Nat) : Except SpanError Nat := do
  -- Nanoseconds overflow on their own before they are carried over to the seconds.
  let nanos ← bounded (total % perSecond + measured.2)
  let secs ← bounded (total / perSecond + measured.1 + nanos / perSecond)
  return secs * perSecond + nanos % perSecond

/-- Adds a number of units, and a fraction of one when there is one, to what was measured before. -/
def addSpan (total : Nat) (number : Nat) (fraction : Option Fraction) (name : Text) :
    Except SpanError Nat :=
  if name.isEmpty then .error (.unitNeeded number) else
    match unit? name with
    | none => .error (.unknownUnit name)
    | some unit => do
      let sum ← addMeasured total (← wholeUnits number unit)
      match fraction with
      | none => return sum
      | some part => addMeasured sum (← unitPart part unit)

/-- Where reading a sum of spans stands. -/
inductive SpanState where
  /-- Between spans, from an offset on; `started` says that a span has been read. -/
  | between (started : Bool) (start : Nat)
  | number (value : Nat)
  /-- In the fraction; `last` is the offset after the last character that was accepted. -/
  | fraction (number : Nat) (part : Fraction) (last : Nat)
  | unit (number : Nat) (part : Option Fraction) (name : Text)

/-- Is the character one that units are written with? -/
def isUnitLetter (c : Char) : Bool :=
  ('a' ≤ c && c ≤ 'z') || ('A' ≤ c && c ≤ 'Z') || c = 'µ'

/-- The value of a number with one more digit. -/
def moreDigits (value digit : Nat) : Except SpanError Nat := bounded (value * 10 + digit)

/-- The state after one character at a byte offset, and the nanoseconds measured so far. -/
def spanStep (state : SpanState) (total offset : Nat) (c : Char) :
    Except SpanError (SpanState × Nat) :=
  match state with
  | .between started start =>
    if Text.isBlank c then .ok (.between started start, total) else
      match Text.digit? c with
      | some digit => .ok (.number digit, total)
      -- A number is missed where the blanks begin.
      | none => .error (.numberExpected start)
  | .number value =>
    match Text.digit? c with
    | some digit => return (.number (← moreDigits value digit), total)
    | none =>
      if Text.isBlank c then .ok (.number value, total)
      else if isUnitLetter c then .ok (.unit value none [c], total)
      else if c = '.' then .ok (.fraction value ⟨0, 1⟩ offset, total)
      else .error (.invalidCharacter offset)
  | .fraction number part last =>
    match Text.digit? c with
    | some digit => do
      let num ← moreDigits part.num digit
      let den ← bounded (part.den * 10)
      return (.fraction number ⟨num, den⟩ (offset + 1), total)
    | none =>
      if Text.isBlank c then .ok (.fraction number part (offset + c.utf8Size), total)
      else if isUnitLetter c ∧ 1 < part.den then .ok (.unit number (some part) [c], total)
      else .error (.invalidCharacter last)
  | .unit number part name =>
    match Text.digit? c with
    | some digit => return (.number digit, ← addSpan total number part name)
    | none =>
      if Text.isBlank c then
        return (.between true (offset + c.utf8Size), ← addSpan total number part name)
      else if isUnitLetter c then .ok (.unit number part (name ++ [c]), total)
      else .error (.invalidCharacter offset)

/-- Closes a sum of spans at the end of the text. -/
def spanEnd (state : SpanState) (total : Nat) : Except SpanError Nat :=
  match state with
  | .between started _ => if started then .ok total else .error .empty
  | .number value => addSpan total value none []
  | .fraction number part last =>
    if 1 < part.den then addSpan total number (some part) [] else .error (.invalidCharacter last)
  | .unit number part name => addSpan total number part name

/-- Reads characters one after the other, counting the bytes that they take. -/
def readSpansFrom (state : SpanState) (total offset : Nat) : Text → Except SpanError Nat
  | [] => spanEnd state total
  | c :: rest => do
    let (next, sum) ← spanStep state total offset c
    readSpansFrom next sum (offset + c.utf8Size) rest

/-- Reads a sum of spans. -/
def readSpans (text : Text) : Except SpanError Duration :=
  (readSpansFrom (.between false 0) 0 0 text).map Duration.mk

end Duration

end TaggedTests
