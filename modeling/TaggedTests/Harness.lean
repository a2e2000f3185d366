import TaggedTests.Harness.Selection
import TaggedTests.Obstacle
import TaggedTests.Output
import TaggedTests.Report.FailureReport
import TaggedTests.Suite.Reader
import TaggedTests.Suite.Render

/-!
The harness: running every selected test file against one program.

In the mode that fills tests, a file is written again if one of its tests was filled.
-/

namespace TaggedTests

namespace Harness

/-- Why the tests of a file were not run or not saved. -/
inductive Trouble where
  | selection (error : SelectionError)
  | obstacle (obstacle : Obstacle)
  deriving DecidableEq, Repr

/-- The wording of trouble. -/
def Trouble.message : Trouble → Text
  | .selection error => error.message
  | .obstacle cause => cause.message

/-- What running a file has come to. -/
structure FileRun where
  summary : Summary
  reports : List FailureReport
  deriving DecidableEq, Repr

/-- The number of failures that are reported for a file. -/
def reportLimit : Nat := 5

variable {σ : Type}

/-- Puts the tests after a run into their file if some were filled. -/
def save (workspace : Workspace σ) (mode : Mode) (path : Text) (run : Run) (after : Suite)
    (state : σ) : Except Trouble Unit × σ :=
  -- A file in which nothing was filled is not touched.
  if mode = .fill ∧ run.summary.passed ≠ 0 then
    let (written, next) := workspace.writeText path after.render state
    (written.mapError fun reason => .obstacle (.unwritable path reason), next)
  else (.ok (), state)

/-- Runs a suite against a program that is ready to be run. -/
def test (workspace : Workspace σ) (settings : Settings) (mode : Mode) (path : Text) (suite : Suite)
    (invocation : Invocation) (state : σ) : Except Trouble FileRun × σ :=
  match suite.run workspace.toHost ⟨mode, none, settings.limit⟩ invocation state with
  | (.error error, next) => (.error (.obstacle (.limit error)), next)
  | (.ok (run, after), next) =>
    let (saved, final) := save workspace mode path run after next
    (saved.map fun _ => ⟨run.summary, run.reports after reportLimit⟩, final)

/-- Builds the program under a suite and runs the suite; what a compiler complains of
comes first. -/
def buildAndTest (workspace : Workspace σ) (settings : Settings) (mode : Mode) (path program : Text)
    (suite : Suite) (state : σ) : (List OutputStream × Except Trouble FileRun) × σ :=
  match workspace.temporary state with
  | (.error reason, next) => (([], .error (.obstacle (.directory reason))), next)
  | (.ok directory, ready) =>
    -- What the compiler puts out is shown even if it fails.
    let ((built, ran), next) := suite.build workspace program settings.language directory ready
    let foreign := (ran.map fun compiler => [Output.foreign compiler.stderr]).toList
    match built with
    | .error error => ((foreign, .error (.obstacle (.build error))), next)
    | .ok invocation =>
      let (result, final) := test workspace settings mode path suite invocation next
      ((foreign, result), final)

/-- Runs a case. -/
def runCase (workspace : Workspace σ) (settings : Settings) (mode : Mode) (case : Case)
    (state : σ) : (List OutputStream × Except Trouble FileRun) × σ :=
  match case.program with
  | .error error => (([], .error (.selection error)), state)
  | .ok program =>
    match workspace.readText case.path state with
    | (.error reason, next) => (([], .error (.obstacle (.unreadable case.path reason))), next)
    | (.ok text, next) =>
      match Suite.read settings.registry ⟨.bracketed, mode = .test⟩ text with
      | .error error => (([], .error (.obstacle (.parse error))), next)
      | .ok suite => buildAndTest workspace settings mode case.path program suite next

/-- Did running a file go well? -/
def succeeded (result : Except Trouble FileRun) : Bool :=
  match result with
  | .ok file => file.summary.isOk
  | .error _ => false

/-- What is told of a case: its verdict, then reports and counts or the trouble. -/
def status (case : Case) (result : Except Trouble FileRun) : Styled :=
  [.of .hint "Testing".toList, .bare (' ' :: case.path ++ " ... ".toList),
    if succeeded result then .of .info "ok".toList else .of .error "failed".toList, .newline] ++
  match result with
  | .ok file =>
    file.reports.flatMap FailureReport.styled ++
      if file.summary.isOk then [] else [.bare file.summary.message, .newline]
  | .error trouble => [.of .error trouble.message, .newline]

/-- Runs cases in order, giving what is put out and the number of those that failed. -/
def runAll (workspace : Workspace σ) (settings : Settings) (mode : Mode) :
    List Case → σ → (List OutputStream × Nat) × σ
  | [], state => (([], 0), state)
  | case :: rest, state =>
    let ((foreign, result), next) := runCase workspace settings mode case state
    let ((outputs, failed), final) := runAll workspace settings mode rest next
    -- A case is told of in a stream of its own, so that no escape sequence goes on to the next.
    ((foreign ++ [.text ((status case result).render .color)] :: outputs,
      if succeeded result then failed else failed + 1), final)

/-- What has come of a harness. -/
structure Conclusion where
  streams : List OutputStream
  failed : Nat
  total : Nat
  deriving DecidableEq, Repr

namespace Conclusion

/-- The complaint that ends a harness with failures. -/
def complaint? (conclusion : Conclusion) : Option Text :=
  if conclusion.failed = 0 then none
  else
    some (Text.ofNat conclusion.failed ++ " of ".toList ++ Text.ofNat conclusion.total ++
      " tests failed".toList)

end Conclusion

/-- Runs cases and closes with a hint if some of them failed. -/
def runCases (workspace : Workspace σ) (settings : Settings) (mode : Mode) (cases : List Case)
    (state : σ) : Conclusion × σ :=
  if cases.isEmpty then
    (⟨[Output.styledLine .warn "There are no vival test files enabled yet".toList], 0, 0⟩, state)
  else
    let ((outputs, failed), final) := runAll workspace settings mode cases state
    let hint :=
      if failed = 0 then []
      else
        [Output.styledLine .hint "Record output of unfilled tests with \x60VIVAL=fill\x60".toList]
    (⟨outputs ++ hint, failed, cases.length⟩, final)

/-- The files of a workspace as patterns see them. -/
def treeOf (workspace : Workspace σ) (state : σ) : FileTree where
  pathExists := fun path => workspace.pathExists path state
  entries := fun path => workspace.entries path state

/-- Runs the files that a harness is set up with. -/
def run (workspace : Workspace σ) (settings : Settings) (mode : Mode) (state : σ) :
    Conclusion × σ :=
  runCases workspace settings mode (cases (Glob.expand (treeOf workspace state)) settings) state

end Harness

end TaggedTests
