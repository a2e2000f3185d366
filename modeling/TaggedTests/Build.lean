import TaggedTests.Language
import TaggedTests.Suite
import TaggedTests.Text.ShellWords
import TaggedTests.Workspace

/-! Turning a program under test into something that can be run: compiled, interpreted
or as it is. -/

namespace TaggedTests

/-- Why a program cannot be run. -/
inductive BuildError where
  /-- Flags in which a quote stays open. -/
  | malformedFlags (flags : Text)
  | notCompiled (language : Language)
  | unwritable (path reason : Text)
  | failed
  deriving DecidableEq, Repr

/-- The wording of a build error. -/
def BuildError.message : BuildError → Text
  | malformedFlags flags =>
    "Malformed FLAGS \x60".toList ++ flags ++ "\x60: unbalanced quotes".toList
  | notCompiled language => language.display ++ " sources are not compiled".toList
  | unwritable path reason => "Failed to write ".toList ++ path ++ ": ".toList ++ reason
  | failed =>
    "Failed to compile source file. Make sure you have C/C++ compiler installed.".toList

/-- A run of a compiler that is about to be made. -/
structure CompileCommand where
  compiler : Text
  args : List Text
  /-- A source file to be written first, with its content. -/
  mainFile : Option (Text × Text)
  /-- The path of the executable. -/
  output : Text
  deriving DecidableEq, Repr

namespace CompileCommand

/-- Compiler flags split as a shell would. -/
def splitFlags (flags : Text) : Except BuildError (List Text) :=
  match Text.shellWords? flags with
  | none => .error (.malformedFlags flags)
  | some words => .ok words

/-- The command that compiles a source, and a main file beside the output where one is given. -/
def make (language : Language) (directory : Text) (flags : List Text) (source : Text)
    (main : Option Text) : Except BuildError CompileCommand :=
  match language.compiler? with
  | none => .error (.notCompiled language)
  | some compiler =>
    -- The main file lies beside the executable, away from the sources.
    let mainPath := Path.join directory ("main.".toList ++ language.extension)
    let output := Path.join directory "res".toList
    .ok {
      compiler := compiler
      args := flags ++ (main.map fun _ => mainPath).toList ++ [source, "-o".toList, output]
      mainFile := main.map fun content => (mainPath, content)
      output := output }

/-- The arguments as listed; one with a null character, which no command can be given, is
replaced. -/
def listedArgs (command : CompileCommand) : List Text :=
  command.args.map fun arg => if '\x00' ∈ arg then "<string-with-nul>".toList else arg

variable {σ : Type}

/-- Writes the main file of a command, if it has one. -/
def prepare (workspace : Workspace σ) (command : CompileCommand) (state : σ) :
    Except BuildError Unit × σ :=
  match command.mainFile with
  | none => (.ok (), state)
  | some (path, content) =>
    let (written, next) := workspace.writeText path content state
    (written.mapError (.unwritable path), next)

/-- Writes the main file and compiles, giving also what the compiler left. -/
def run (workspace : Workspace σ) (command : CompileCommand) (state : σ) :
    (Except BuildError Text × Option CompilerRun) × σ :=
  match command.prepare workspace state with
  | (.error error, next) => ((.error error, none), next)
  | (.ok _, prepared) =>
    let (ran, next) := workspace.compile command.compiler command.args prepared
    -- A compiler that could not be started counts as one that failed.
    let succeeded := ran.any CompilerRun.succeeded
    ((if succeeded then .ok command.output else .error .failed, ran), next)

end CompileCommand

namespace Suite

variable {σ : Type}

/-- The command that compiles a program with the flags and the main file of the suite. -/
def compileCommand (suite : Suite) (language : Language) (directory path : Text) :
    Except BuildError CompileCommand := do
  let flags ← CompileCommand.splitFlags (suite.flags.getD [])
  CompileCommand.make language directory flags path suite.mainText

/-- How to run a program under the suite, building in a directory where it has to be compiled. -/
def build (workspace : Workspace σ) (suite : Suite) (path : Text) (given : Option Language)
    (directory : Text) (state : σ) : (Except BuildError Invocation × Option CompilerRun) × σ :=
  match Language.ofProgram? path given with
  | none => ((.ok ⟨path, []⟩, none), state)
  | some .python => ((.ok ⟨"python3".toList, [path]⟩, none), state)
  | some language =>
    match suite.compileCommand language directory path with
    | .error error => ((.error error, none), state)
    | .ok command =>
      let ((output, ran), next) := command.run workspace state
      ((output.map fun executable => ⟨executable, []⟩, ran), next)

end Suite

end TaggedTests
