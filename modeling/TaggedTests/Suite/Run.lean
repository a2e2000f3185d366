import TaggedTests.Suite
import TaggedTests.Test.Run

/-!
Running a suite: every suitable test in the order of the file.

Filled tests are checked in one mode, and in the other unfilled ones adopt what they print. A run
may be cut off after a number of failures.
-/

namespace TaggedTests

/-- What running a suite is for. -/
inductive Mode where
  /-- Filled tests are checked. -/
  | test
  /-- Unfilled tests adopt what the program prints. -/
  | fill
  deriving DecidableEq, Repr

/-- A word that names no mode. -/
structure UnknownMode where
  word : Text
  deriving DecidableEq, Repr

/-- The wording of the error for a word that names no mode. -/
def UnknownMode.message (unknown : UnknownMode) : Text :=
  "Unknown mode \x60".toList ++ unknown.word ++ "\x60, expected \x60test\x60 or \x60fill\x60".toList

namespace Mode

/-- Reads a mode; capital letters make no difference. -/
def read (word : Text) : Except UnknownMode Mode :=
  let lowered := word.map Char.toLower
  if lowered = "test".toList then .ok test
  else if lowered = "fill".toList then .ok fill
  else .error ⟨word⟩

/-- Is a test run in this mode? -/
def suits (mode : Mode) (test : Test) : Bool :=
  match mode with
  | .test => test.filled
  | .fill => !test.filled

/-- The test after a run that it passed. -/
def afterPass (mode : Mode) (registry : Registry) (test : Test) : Test :=
  match mode with
  | .test => test
  | .fill => test.fill registry

end Mode

/-- How a suite is to be run. -/
structure RunOptions where
  mode : Mode := .test
  /-- The number of failures after which the run stops; zero counts as no number. -/
  breakFail : Option Nat := none
  /-- A time limit that takes the place of the one in the suite. -/
  limit : Option Duration := none
  deriving DecidableEq, Repr

/-- What became of each test of a suite, in order; a test that was not run has no outcome. -/
abbrev Results := List (Option Outcome × Test)

namespace Results

/-- The results of tests that are not run. -/
def untouched (tests : List Test) : Results := tests.map fun test => (none, test)

/-- Did the result come from a run that passed? -/
def isPass (result : Option Outcome × Test) : Bool := result.1 = some .passed

/-- The failure of a result, if it has one. -/
def failure? (result : Option Outcome × Test) : Option Failure :=
  match result.1 with
  | some (.failed failure) => some failure
  | _ => none

/-- The failures with the places of their tests, the first result being at `start`. -/
def failuresFrom : Nat → Results → List (Nat × Failure)
  | _, [] => []
  | start, result :: rest =>
    match failure? result with
    | some failure => (start, failure) :: failuresFrom (start + 1) rest
    | none => failuresFrom (start + 1) rest

end Results

/-- Counts over the tests that were run. -/
structure Summary where
  mode : Mode
  passed : Nat
  failed : Nat
  suitable : Nat
  deriving DecidableEq, Repr

namespace Summary

/-- Did no test fail? -/
def isOk (summary : Summary) : Bool := summary.failed = 0

/-- The counts as shown. -/
def message (summary : Summary) : Text :=
  (match summary.mode with
    | .test => "Passed".toList
    | .fill => "Filled".toList) ++
    " tests: ".toList ++ Text.ofNat summary.passed ++ '/' :: Text.ofNat summary.suitable

end Summary

/-- The result of running a suite. -/
structure Run where
  summary : Summary
  /-- Every failure with the place of its test, in the order of the file. -/
  failures : List (Nat × Failure)
  deriving DecidableEq, Repr

/-- The result that the results of all tests add up to. -/
def Run.ofResults (mode : Mode) (results : Results) : Run where
  summary :=
    { mode := mode
      passed := results.countP Results.isPass
      failed := results.countP fun result => (Results.failure? result).isSome
      suitable := results.countP fun result => result.1.isSome }
  failures := Results.failuresFrom 0 results

namespace Suite

variable {σ : Type}

/-- Runs the suitable ones of some tests until the allowed number of failures is used up. -/
def runTests (host : Host σ) (registry : Registry) (mode : Mode) (invocation : Invocation)
    (limit : Duration) : Option Nat → List Test → σ → Results × σ
  | _, [], state => ([], state)
  | allowed, test :: rest, state =>
    -- A test that the mode leaves out keeps its place.
    if !mode.suits test then
      let (results, final) := runTests host registry mode invocation limit allowed rest state
      ((none, test) :: results, final)
    else
      match test.run host invocation limit state with
      | ((.passed, ran), next) =>
        let (results, final) := runTests host registry mode invocation limit allowed rest next
        ((some .passed, mode.afterPass registry ran) :: results, final)
      | ((.failed failure, ran), next) =>
        -- The last failure that is allowed leaves all later tests as they are.
        if allowed = some 1 then
          ((some (.failed failure), ran) :: Results.untouched rest, next)
        else
          let (results, final) :=
            runTests host registry mode invocation limit (allowed.map (· - 1)) rest next
          ((some (.failed failure), ran) :: results, final)

/-- Runs a suite, giving the result and the suite with what was recorded, or why no limit is
known. -/
def run (host : Host σ) (suite : Suite) (options : RunOptions) (invocation : Invocation)
    (state : σ) : Except FormatError (Run × Suite) × σ :=
  -- The limit of the suite is looked at only where no other one is given.
  match options.limit.elim suite.timeout Except.ok with
  | .error error => (.error error, state)
  | .ok limit =>
    let (results, final) :=
      runTests host suite.registry options.mode invocation limit
        (options.breakFail.filter (0 < ·)) suite.tests state
    (.ok (.ofResults options.mode results, { suite with tests := results.map Prod.snd }), final)

end Suite

end TaggedTests
