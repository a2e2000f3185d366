import TaggedTests.Toml.Trouble

/-!
Reading the parts of a TOML document one after the other.

A part that is missing may be another one; what is wrong stays wrong however it is read.
-/

namespace TaggedTests

namespace Toml

/-- How reading something at the start of a text ends. -/
inductive Reading (α : Type) where
  | found (value : α) (rest : Text)
  /-- The text starts with something else. -/
  | missing (trouble : Trouble)
  /-- The text is wrong. -/
  | wrong (trouble : Trouble)

/-- What reads something at the start of a text. -/
def Reader (α : Type) : Type := Text → Reading α

instance : Monad Reader where
  pure value := fun text => .found value text
  bind reader next := fun text =>
    match reader text with
    | .found value rest => next value rest
    | .missing trouble => .missing trouble
    | .wrong trouble => .wrong trouble

namespace Reader

variable {α : Type}

/-- Finds nothing. -/
def nothing : Reader α := fun text => .missing ⟨text, 0, none, [], none⟩

/-- Finds nothing because of a fault. -/
def fault (fault : Fault) : Reader α := fun text => .missing ⟨text, 0, none, [], some fault⟩

/-- Reads one character of a kind. -/
def one (fits : Char → Bool) : Reader Char := fun text =>
  match text with
  | c :: rest => if fits c then .found c rest else nothing text
  | [] => nothing text

/-- Reads a given text. -/
def exactly (word : Text) : Reader Unit := fun text =>
  match Text.after? word text with
  | some rest => .found () rest
  | none => nothing text

/-- Reads as many characters of a kind as there are. -/
def run (fits : Char → Bool) : Reader Text := fun text =>
  .found (text.takeWhile fits) (text.dropWhile fits)

/-- Reads as many characters of a kind as there are, of which there is at least one. -/
def someRun (fits : Char → Bool) : Reader Text := fun text =>
  if (text.takeWhile fits).isEmpty then nothing text else run fits text

/-- Reads nothing where the text ends. -/
def finish : Reader Unit := fun text => if text.isEmpty then .found () text else nothing text

/-- Reads in a first way and, where that finds nothing, in a second. -/
def or (first : Reader α) (second : Unit → Reader α) : Reader α := fun text =>
  match first text with
  | .missing _ => second () text
  | reading => reading

instance : OrElse (Reader α) := ⟨Reader.or⟩

/-- Reads something that may be missing. -/
def optional (reader : Reader α) : Reader (Option α) := fun text =>
  match reader text with
  | .found value rest => .found (some value) rest
  | .missing _ => .found none text
  | .wrong trouble => .wrong trouble

/-- Reads something without which the text is wrong. -/
def required (reader : Reader α) : Reader α := fun text =>
  match reader text with
  | .missing trouble => .wrong trouble
  | reading => reading

/-- Reads something and goes back to its start. -/
def ahead (reader : Reader α) : Reader α := fun text =>
  match reader text with
  | .found value _ => .found value text
  | reading => reading

/-- Changes the trouble that reading may end with. -/
def mapTrouble (change : Trouble → Trouble) (reader : Reader α) : Reader α := fun text =>
  match reader text with
  | .missing trouble => .missing (change trouble)
  | .wrong trouble => .wrong (change trouble)
  | reading => reading

/-- Tells of trouble as trouble in a part. -/
def inside (part : Part) (reader : Reader α) : Reader α := reader.mapTrouble (·.inside part)

/-- Tells of trouble what else could have stood there. -/
def expecting (expected : List Expected) (reader : Reader α) : Reader α :=
  reader.mapTrouble (·.expecting expected)

/-- Reads something that may turn out to be faulty, as if nothing were found where it starts. -/
def checked (reader : Reader (Except Fault α)) : Reader α := fun text =>
  match reader text with
  | .found (.ok value) rest => .found value rest
  | .found (.error fault) _ => Reader.fault fault text
  | .missing trouble => .missing trouble
  | .wrong trouble => .wrong trouble

/-- Reads something together with its extent. -/
def located (reader : Reader (Extent → α)) : Reader α := fun text =>
  match reader text with
  | .found make rest => .found (make ⟨text, rest⟩) rest
  | .missing trouble => .missing trouble
  | .wrong trouble => .wrong trouble

/-- Passes a value on from one reading to the next until one finds nothing, a number of times
at most. -/
def iterate (step : α → Reader α) : Nat → α → Reader α
  | 0, value => return value
  | fuel + 1, value => fun text =>
    match step value text with
    | .found next rest => iterate step fuel next rest
    | .missing _ => .found value text
    | .wrong trouble => .wrong trouble

/-- Passes a value on from one reading to the next until one finds nothing. -/
def fold (step : α → Reader α) (value : α) : Reader α := fun text =>
  -- No reading is of any use that does not consume a character.
  iterate step (text.length + 1) value text

/-- Reads something again and again until nothing is found. -/
def many (reader : Reader α) : Reader (List α) := do
  let reversed ← fold (fun values => do return (← reader) :: values) []
  return reversed.reverse

/-- Reads one thing or more with something between each two. -/
def separated (separator : Reader Unit) (reader : Reader α) : Reader (List α) := do
  let first ← reader
  let more ← many do
    separator
    reader
  return first :: more

end Reader

end Toml

end TaggedTests
