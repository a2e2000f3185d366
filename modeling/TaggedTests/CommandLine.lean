import TaggedTests.CommandLine.Options
import TaggedTests.Obstacle
import TaggedTests.Output
import TaggedTests.Report.FailureReport
import TaggedTests.Suite.Render

/-!
The command line: running the tests of a file against a program.

A run goes through stages, each of which may end it: the configuration of tags, the test file, the
build, the tests, and the file for the tests after the run.
-/

namespace TaggedTests

namespace CommandLine

/-- The heading above the wording of an obstacle. -/
def heading? : Obstacle → Option Text
  | .parse _ => some "Parse failed!".toList
  | .build _ => some "Compilation failed!".toList
  | _ => none

/-- The streams that tell of a stream and then of an obstacle, which has a stream of its own unless
it has a heading. -/
def streamsOf (outputs : OutputStream) (obstacle : Obstacle) : List OutputStream :=
  match heading? obstacle with
  | some heading => [outputs ++ Output.styledLine .error heading ++ Output.line obstacle.message]
  | none => [outputs, Output.line obstacle.message]

variable {σ : Type}

/-- The registry, configured by a file if one is given. -/
def registryFor (workspace : Workspace σ) (options : Options) (state : σ) :
    Except Obstacle Registry × σ :=
  match options.tags with
  | none => (.ok .builtin, state)
  | some path =>
    match workspace.readText path state with
    | (.error reason, next) => (.error (.unreadable path reason), next)
    | (.ok raw, next) => ((Registry.ofToml raw).mapError .settings, next)

/-- The suite of the test file; only tests that are to be checked have to be filled. -/
def suiteFor (workspace : Workspace σ) (options : Options) (registry : Registry) (state : σ) :
    Except Obstacle Suite × σ :=
  match workspace.readText options.tests state with
  | (.error reason, next) => (.error (.unreadable options.tests reason), next)
  | (.ok text, next) =>
    ((Suite.read registry ⟨options.format, options.mode = .test⟩ text).mapError .parse, next)

/-- Do the flags ask for sanitizers that the memory checker does not go together with? -/
def clashes (options : Options) (suite : Suite) : Bool :=
  options.valgrind && !suite.sanitizers.isEmpty

/-- The suite as it is built. -/
def prepared (options : Options) (suite : Suite) : Suite :=
  if clashes options suite then suite.stripSanitizers else suite

/-- What there is to remark about a suite before it is built. -/
def remarks (options : Options) (suite : Suite) : OutputStream :=
  (if clashes options suite then
    Output.styledLine .warn
      "Warning: valgrind is enabled, so sanitizers were deleted from flags".toList
  else []) ++
  if suite.warnings.isEmpty then []
  else
    Output.styledLine .warn "Warnings from parser:".toList ++
      suite.warnings.flatMap fun warning => Output.line warning.message

/-- How the program of the options is run. -/
def launched (options : Options) (invocation : Invocation) : Invocation :=
  if options.valgrind then invocation.underValgrind else invocation

/-- How the tests are to be run. -/
def runOptions (options : Options) : RunOptions := ⟨options.mode, options.breakFail, options.limit⟩

/-- What is told of a run: what the tests are about, the first failures and the counts. -/
def account (options : Options) (run : Run) (after : Suite) : OutputStream :=
  Output.line [] ++ Output.line after.description ++ Output.line [] ++
  (if run.failures.isEmpty then []
  else
    Output.styledLine .error "Failed on these tests:".toList ++ Output.line [] ++
      (run.reports after options.reportLimit).map fun report =>
        .text (report.styled.render .color)) ++
  Output.line run.summary.message

/-- Puts the tests after a run into a file if one is asked for. -/
def save (workspace : Workspace σ) (options : Options) (after : Suite) (state : σ) :
    Except Obstacle Unit × σ :=
  match options.output with
  | none => (.ok (), state)
  | some path =>
    let (written, next) := workspace.writeText path after.render state
    (written.mapError (.unwritable path), next)

/-- Did a run go well? Filling tests may fail. -/
def isSuccess (mode : Mode) (run : Run) : Bool := mode = .fill || run.summary.isOk

/-- What has come of the command line: what was put out, and the verdict or why there is none. -/
structure Conclusion where
  outputs : OutputStream
  verdict : Except Obstacle Bool

namespace Conclusion

/-- The conclusion after something else was put out. -/
def after (outputs : OutputStream) (conclusion : Conclusion) : Conclusion :=
  { conclusion with outputs := outputs ++ conclusion.outputs }

/-- The conclusion at an obstacle. -/
def stopped (obstacle : Obstacle) : Conclusion := ⟨[], .error obstacle⟩

/-- Everything that is put out. -/
def streams (conclusion : Conclusion) : List OutputStream :=
  match conclusion.verdict with
  | .ok _ => [conclusion.outputs]
  | .error obstacle => streamsOf conclusion.outputs obstacle

/-- The exit status. -/
def exitCode (conclusion : Conclusion) : Nat :=
  match conclusion.verdict with
  | .ok true => 0
  | _ => 1

end Conclusion

/-- Runs the tests of a suite against a program that is ready to be run. -/
def test (workspace : Workspace σ) (options : Options) (suite : Suite) (invocation : Invocation)
    (state : σ) : Conclusion × σ :=
  match suite.run workspace.toHost (runOptions options) (launched options invocation) state with
  | (.error error, next) => (.stopped (.limit error), next)
  | (.ok (run, after), next) =>
    let (saved, final) := save workspace options after next
    (⟨account options run after, saved.map fun _ => isSuccess options.mode run⟩, final)

/-- Builds the program under a suite and tests it. -/
def buildAndTest (workspace : Workspace σ) (options : Options) (suite : Suite) (state : σ) :
    Conclusion × σ :=
  match workspace.temporary state with
  | (.error reason, next) => (.stopped (.directory reason), next)
  | (.ok directory, ready) =>
    let ((built, ran), next) :=
      suite.build workspace options.program options.language directory ready
    let foreign := (ran.map fun compiler => Output.foreign compiler.stdout).toList
    match built with
    | .error error => (.after foreign (.stopped (.build error)), next)
    | .ok invocation =>
      let (conclusion, final) := test workspace options suite invocation next
      (conclusion.after foreign, final)

/-- Runs the command line. -/
def run (workspace : Workspace σ) (options : Options) (state : σ) : Conclusion × σ :=
  match registryFor workspace options state with
  | (.error obstacle, next) => (.stopped obstacle, next)
  | (.ok registry, configured) =>
    match suiteFor workspace options registry configured with
    | (.error obstacle, next) => (.stopped obstacle, next)
    | (.ok suite, next) =>
      let (conclusion, final) := buildAndTest workspace options (prepared options suite) next
      (conclusion.after (remarks options suite), final)

/-- The exit status for arguments that cannot be understood. -/
def misuse : Nat := 2

/-- Runs the command line with arguments: what is put out and the exit status. -/
def perform (workspace : Workspace σ) (args : List Text) (state : σ) :
    (List OutputStream × Nat) × σ :=
  match Options.read? (fun path => workspace.pathExists path state) args with
  | none => (([], misuse), state)
  | some options =>
    let (conclusion, final) := run workspace options state
    ((conclusion.streams, conclusion.exitCode), final)

end CommandLine

end TaggedTests
