import TaggedTests.Suite.Reader
import TaggedTests.Suite.Run
import TaggedTests.Language

/-!
What a command line asks for.

An option stands behind two dashes, or one dash and a letter, and takes a value with an equals
sign or from the next argument. Each option is given once at most.
-/

namespace TaggedTests

namespace CommandLine

/-- Something that an option sets. -/
inductive Setting where
  | tests
  | reportLimit
  | output
  | language
  | mode
  | oldFormat
  | valgrind
  | breakFail
  | tags
  | limit
  deriving DecidableEq, Repr

namespace Setting

/-- Every setting. -/
def all : List Setting :=
  [tests, reportLimit, output, language, mode, oldFormat, valgrind, breakFail, tags, limit]

/-- The names that follow two dashes. -/
def names : Setting → List Text
  | tests => ["tests".toList]
  | reportLimit => ["ntests".toList]
  | output => ["output".toList]
  | language => ["lang".toList]
  | mode => ["mode".toList]
  | oldFormat => ["old-format".toList]
  | valgrind => ["valgrind".toList, "vg".toList]
  | breakFail => ["break-fail".toList, "bf".toList]
  | tags => ["tags".toList]
  | limit => ["timeout".toList]

/-- The letter that follows one dash. -/
def letter? : Setting → Option Char
  | tests => some 't'
  | output => some 'o'
  | language => some 'l'
  | mode => some 'm'
  | _ => none

/-- Is it set by a value? -/
def takesValue : Setting → Bool
  | oldFormat | valgrind => false
  | _ => true

/-- The setting of a name. -/
def ofName? (name : Text) : Option Setting := all.find? fun setting => setting.names.elem name

/-- The setting of a letter. -/
def ofLetter? (letter : Char) : Option Setting :=
  all.find? fun setting => setting.letter? = some letter

end Setting

/-- What an argument is or, of an option, several together. -/
inductive Item where
  | program (path : Text)
  | option (setting : Setting) (value : Text)
  | flag (setting : Setting)
  deriving DecidableEq, Repr

/-- An option by its setting, with the value that it has been given already. -/
abbrev Opening := Setting × Option Text

/-- Does an argument stand for itself, being no option? -/
def isPlain (arg : Text) : Bool := arg.head? ≠ some '-' || arg = ['-']

/-- An option behind two dashes; a value follows an equals sign. -/
def longOpening? (body : Text) : Option Opening :=
  match Text.cut? ['='] body with
  | some (name, value) => (Setting.ofName? name).map (·, some value)
  | none => (Setting.ofName? body).map (·, none)

/-- An option behind one dash; a value follows the letter, with or without an equals sign. -/
def shortOpening? : Text → Option Opening
  | [] => none
  | letter :: [] => (Setting.ofLetter? letter).map (·, none)
  | letter :: '=' :: value => (Setting.ofLetter? letter).map (·, some value)
  | letter :: value => (Setting.ofLetter? letter).map (·, some value)

/-- The option that an argument begins, if it is one. -/
def opening? : Text → Option Opening
  | '-' :: '-' :: body => longOpening? body
  | '-' :: body => shortOpening? body
  | _ => none

/-- What arguments are; a setting waits for its value where the last option had none. -/
def items : Option Setting → List Text → Option (List Item)
  | none, [] => some []
  | some _, [] => none
  | some setting, arg :: rest =>
    if isPlain arg then (items none rest).map (.option setting arg :: ·) else none
  | none, arg :: rest =>
    if isPlain arg then (items none rest).map (.program arg :: ·)
    else if arg = ['-', '-'] then some (rest.map .program)
    else
      match opening? arg with
      | none => none
      | some (setting, some value) =>
        if setting.takesValue then (items none rest).map (.option setting value :: ·) else none
      | some (setting, none) =>
        if setting.takesValue then items (some setting) rest
        else (items none rest).map (.flag setting :: ·)

/-- What a run of the command line is asked to do. -/
structure Options where
  /-- The path of the program under test. -/
  program : Text
  /-- The path of the test file. -/
  tests : Text := "tests.txt".toList
  /-- The number of failures that are reported. -/
  reportLimit : Nat := 5
  /-- The path of a file for the tests after the run. -/
  output : Option Text := none
  language : Option Language := none
  mode : Mode := .test
  format : Format := .bracketed
  valgrind : Bool := false
  breakFail : Option Nat := none
  /-- The path of a file that configures tags. -/
  tags : Option Text := none
  limit : Option Duration := none
  deriving DecidableEq, Repr

namespace Options

/-- A path, which must not be empty. -/
def path? (value : Text) : Option Text := if value = [] then none else some value

/-- A number of failures. -/
def count? (value : Text) : Option Nat := (IntegerRange.nat64.read value).toOption.map Int.toNat

/-- The options with a value for a setting, if the value is one of that kind. -/
def set? (options : Options) (value : Text) : Setting → Option Options
  | .tests => (path? value).map fun path => { options with tests := path }
  | .reportLimit => (count? value).map fun count => { options with reportLimit := count }
  | .output => (path? value).map fun path => { options with output := some path }
  | .language =>
    (Language.read value).toOption.map fun language => { options with language := some language }
  | .mode => (Mode.read value).toOption.map fun mode => { options with mode := mode }
  | .breakFail => (count? value).map fun count => { options with breakFail := some count }
  | .tags => (path? value).map fun path => { options with tags := some path }
  | .limit =>
    (Duration.readSpans value).toOption.map fun limit => { options with limit := some limit }
  | .oldFormat | .valgrind => none

/-- The options with a flag. -/
def turnOn (options : Options) : Setting → Options
  | .oldFormat => { options with format := .legacy }
  | .valgrind => { options with valgrind := true }
  | _ => options

/-- The options with what an item asks for. -/
def take? (options : Options) : Item → Option Options
  | .program _ => some options
  | .option setting value => options.set? value setting
  | .flag setting => some (options.turnOn setting)

/-- The setting that an item gives. -/
def setting? : Item → Option Setting
  | .program _ => none
  | .option setting _ => some setting
  | .flag setting => some setting

/-- The path of a program. -/
def program? : Item → Option Text
  | .program path => some path
  | _ => none

/--
Reads the arguments, if they can be understood.

There has to be one program, and nothing may be set twice.
-/
def read? (pathExists : Text → Bool) (args : List Text) : Option Options := do
  let items ← items none args
  let [path] := items.filterMap program? | none
  if !pathExists path then none
  if !decide (items.filterMap setting?).Nodup then none
  items.foldlM take? { program := path }

end Options

end CommandLine

end TaggedTests
