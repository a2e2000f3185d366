import TaggedTests.Toml.Reading

/-!
Dates and times of a TOML document.

A date may have a time behind it, and that an offset from universal time. Every month counts as
having thirty-one days, and every minute may have a leap second.
-/

namespace TaggedTests

namespace Toml

namespace Moment

/-- Reads a number of a fixed count of digits that lies between two bounds. -/
def field (count low high : Nat) : Reader Unit := fun text =>
  let values := ((text.take count).map Text.digit?).takeWhile Option.isSome
  let value := Text.ofDigits 10 (values.filterMap id)
  if values.length < count then Reader.nothing text
  else if low ≤ value ∧ value ≤ high then .found () (text.drop count)
  else Reader.fault .outOfRange text

/-- Reads a date. -/
def date : Reader Unit := do
  field 4 0 9999
  Reader.exactly ['-']
  Reader.required do
    field 2 1 12
    Reader.exactly ['-']
    field 2 1 31

/-- Reads a fraction of a second. -/
def fraction : Reader Unit := do
  Reader.exactly ['.']
  let _ ← Reader.someRun fun c => (Text.digit? c).isSome

/-- Reads a time of day. -/
def time : Reader Unit := do
  field 2 0 23
  Reader.exactly [':']
  Reader.required do
    field 2 0 59
    Reader.exactly [':']
    field 2 0 60
    let _ ← fraction.optional

/-- Reads an offset in hours and minutes. -/
def hours : Reader Unit := do
  let _ ← Reader.one fun c => c = '+' || c = '-'
  Reader.required do
    field 2 0 23
    Reader.exactly [':']
    field 2 0 59

/-- Reads an offset from universal time. -/
def offset : Reader Unit :=
  Reader.inside .offset ((do let _ ← Reader.one fun c => c = 'Z' || c = 'z') <|> hours)

/-- Reads what may follow a date: a time, with an offset if there is one. -/
def timeOfDate : Reader Unit := do
  let _ ← Reader.one fun c => c = 'T' || c = 't' || c = ' '
  time
  let _ ← offset.optional

/-- Reads a date with what may follow it. -/
def dateAndTime : Reader Unit := do
  date
  let _ ← timeOfDate.optional

end Moment

/-- Reads a date, a time or both. -/
def moment : Reader Unit := Moment.dateAndTime.inside .date <|> Moment.time.inside .time

end Toml

end TaggedTests
