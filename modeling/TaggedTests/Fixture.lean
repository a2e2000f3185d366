import TaggedTests.Duration.Seconds
import TaggedTests.Text.Blank
import TaggedTests.Text.Integer
import TaggedTests.Text.Lines

/-!
A program to try test files on: each argument is a command, and the commands run in order.

A command may have a value behind an equals sign. All commands read the same input.
-/

namespace TaggedTests

namespace Fixture

/-- A command. -/
inductive Command where
  /-- Prints the input. -/
  | echo
  /-- Prints each number of the input plus one. -/
  | increment
  /-- Prints the lines of the input, the last one first. -/
  | reverse
  /-- Prints the arguments that are left, each on a line. -/
  | args
  /-- Complains. -/
  | stderr
  /-- Waits for a number of seconds. -/
  | sleep
  /-- Ends with a status. -/
  | exit
  deriving DecidableEq, Repr

namespace Command

/-- Every command. -/
def all : List Command := [echo, increment, reverse, args, stderr, sleep, exit]

/-- The name of a command. -/
def name : Command → Text
  | echo => "echo".toList
  | increment => "increment".toList
  | reverse => "reverse".toList
  | args => "args".toList
  | stderr => "stderr".toList
  | sleep => "sleep".toList
  | exit => "exit".toList

/-- The command of a name. -/
def ofName? (text : Text) : Option Command := all.find? fun command => command.name = text

end Command

/-- Why a command fails. -/
inductive FixtureError where
  | unknownCommand (command : Text)
  | integer (error : IntegerError)
  | emptyNumber
  | notANumber
  | seconds (error : Duration.SecondsError)
  deriving DecidableEq, Repr

/-- The wording of an error. -/
def FixtureError.message : FixtureError → Text
  | unknownCommand command => "unknown command \x60".toList ++ command ++ ['\x60']
  | integer error => error.message
  | emptyNumber => "cannot parse float from empty string".toList
  | notANumber => "invalid float literal".toList
  | seconds error => error.message

/-- The exit status after an error; a time that nobody can wait for is a fault. -/
def FixtureError.exit : FixtureError → Nat
  | seconds _ => 101
  | _ => 1

/-- What a run of the program leaves. -/
structure Result where
  exit : Nat
  stdout : Text
  stderr : Text
  deriving DecidableEq, Repr

namespace Result

/-- The result of a run that ends at once. -/
def ending (exit : Nat) : Result := ⟨exit, [], []⟩

/-- The result after something was printed. -/
def printing (text : Text) (result : Result) : Result :=
  { result with stdout := text ++ result.stdout }

/-- The result after a complaint. -/
def complaining (text : Text) (result : Result) : Result :=
  { result with stderr := text ++ result.stderr }

/-- The result of a run that fails. -/
def failing (error : FixtureError) : Result := ⟨error.exit, [], error.message⟩

end Result

/-- The next integer, the least one of 64 bits following the greatest. -/
def successor (n : Int) : Int :=
  if n = IntegerRange.int64.high then IntegerRange.int64.low else n + 1

/-- Each number of the input plus one, on one line. -/
def incremented (input : Text) : Except FixtureError Text := do
  let numbers ← (Text.words input).mapM fun word =>
    (IntegerRange.int64.read word).mapError FixtureError.integer
  return [' '].intercalate (numbers.map fun n => Text.ofInt (successor n)) ++ ['\n']

/-- The lines of texts, each ended. -/
def unlines (lines : List Text) : Text := lines.flatMap fun line => line ++ ['\n']

/-- The status that the system keeps of a number. -/
def statusOf (value : Text) : Except FixtureError Nat :=
  ((IntegerRange.int32.read value).mapError .integer).map fun code => (code % 256).toNat

/-- Reads the time to wait for. -/
def waitOf (value : Text) : Except FixtureError Duration :=
  if value.isEmpty then .error .emptyNumber
  else
    match Duration.readNumber? value with
    | none => .error .notANumber
    | some number => (Duration.ofSeconds number).mapError .seconds

/-- A command with its value. -/
def split (arg : Text) : Text × Text := (Text.cut? ['='] arg).getD (arg, [])

/-- Runs commands on an input. -/
def run (input : Text) : List Text → Result
  | [] => .ending 0
  | arg :: rest =>
    let (name, value) := split arg
    match Command.ofName? name with
    | none => .failing (.unknownCommand arg)
    | some .echo => (run input rest).printing input
    | some .increment =>
      match incremented input with
      | .ok text => (run input rest).printing text
      | .error error => .failing error
    | some .reverse => (run input rest).printing (unlines (Text.lines input).reverse)
    | some .args => .printing (unlines rest) (.ending 0)
    | some .stderr => (run input rest).complaining (value ++ ['\n'])
    | some .sleep =>
      match waitOf value with
      | .ok _ => run input rest
      | .error error => .failing error
    | some .exit =>
      match statusOf value with
      | .ok code => .ending code
      | .error error => .failing error

end Fixture

end TaggedTests
