import TaggedTests.Glob.Expand
import TaggedTests.Language
import TaggedTests.Suite.Run

/-! Which test files are run: those that patterns lead to, each once and in the order of their
paths. -/

namespace TaggedTests

namespace Harness

/-- What a harness is set up with. -/
structure Settings where
  /-- The program that every file is run against. -/
  program : Option Text := none
  language : Option Language := none
  limit : Option Duration := none
  registry : Registry := .builtin
  /-- Paths of test files, or patterns with a star for them. -/
  patterns : List Text := []
  /-- Texts of which the path of a file has to hold one; without a list of them, every file
  counts. -/
  filters : Option (List Text) := none

/-- Why a file that was selected is not run. -/
inductive SelectionError where
  | noProgram
  | noName
  | pattern (error : GlobError)
  /-- A directory that cannot be read. -/
  | unreadable (path reason : Text)
  deriving DecidableEq, Repr

/-- The wording of a selection error. -/
def SelectionError.message : SelectionError → Text
  | noProgram => "no executable configured".toList
  | noName => "path has no name".toList
  | pattern error => error.message
  | unreadable path reason =>
    "attempting to read \x60".toList ++ path ++ "\x60 resulted in an error: ".toList ++ reason

/-- A file that was selected, with the program to run it against. -/
structure Case where
  path : Text
  program : Except SelectionError Text

namespace Case

/-- The case of a test file. -/
def ofFile (program : Option Text) (path : Text) : Case where
  path := path
  program :=
    match program with
    | none => .error .noProgram
    | some program => if (Path.fileName? path).isNone then .error .noName else .ok program

/-- The case of what a pattern has led to. -/
def ofFinding (program : Option Text) : Finding → Case
  | .path path => ofFile program path
  | .unreadable path reason => ⟨path, .error (.unreadable path reason)⟩

/-- Cases in the order of their paths with one more, which replaces one of the same path. -/
def insert (case : Case) : List Case → List Case
  | [] => [case]
  | first :: rest =>
    if Path.lt case.path first.path then case :: first :: rest
    else if Path.lt first.path case.path then first :: insert case rest
    else case :: rest

/-- Does the path hold one of some texts, if these are given? -/
def isIncluded (filters : Option (List Text)) (case : Case) : Bool :=
  filters.all fun texts => texts.any fun text => Text.contains text case.path

end Case

/-- How patterns are expanded. -/
abbrev Expansion := Text → Except GlobError (List Finding)

/-- The cases of a pattern; what holds no star is a path. -/
def casesOf (expand : Expansion) (program : Option Text) (pattern : Text) : List Case :=
  -- Other wildcards alone make no pattern, as they may stand in names of files.
  if '*' ∈ pattern then
    match expand pattern with
    | .ok findings => findings.map (Case.ofFinding program)
    | .error error => [⟨pattern, .error (.pattern error)⟩]
  else [.ofFile program pattern]

/-- The cases of all patterns in the order of their paths, later ones replacing earlier ones. -/
def allCases (expand : Expansion) (settings : Settings) : List Case :=
  (settings.patterns.flatMap (casesOf expand settings.program)).foldl
    (fun cases case => Case.insert case cases) []

/-- The cases that are run. -/
def cases (expand : Expansion) (settings : Settings) : List Case :=
  (allCases expand settings).filter (Case.isIncluded settings.filters)

/-- The filters that arguments give, if they give any. -/
def filtersOf (args : List Text) : Option (List Text) :=
  let given := args.filterMap fun arg => (Text.after? "vival=".toList arg).filter (· ≠ [])
  if given.isEmpty then none else some given

/-- The mode that a variable of the environment asks for. -/
def modeOf (setting : Option Text) : Mode :=
  if setting = some "fill".toList then .fill else .test

end Harness

end TaggedTests
