import Mathlib.Logic.Relation
import TaggedTests.Proofs.Suite.Stripping
import TaggedTests.Proofs.Suite.WellFormed

/-!
Sessions: what may be done to a suite after it was read, any number of times and in any order.

Every change of a suite comes to changes of its tests, one place for each of them, so that what the
changes of a test keep is kept throughout.
-/

namespace TaggedTests

/-- What a test becomes by one operation on it. -/
inductive Test.Changes (registry : Registry) (test : Test) : Test → Prop
  | run {σ : Type} (host : Host σ) (invocation : Invocation) (limit : Duration) (state : σ) :
    Changes registry test (test.run host invocation limit state).1.2
  | recordRun (output : Text) (failed : Bool) : Changes registry test (test.recordRun output failed)
  | setLastRunFailed (failed : Bool) : Changes registry test (test.setLastRunFailed failed)
  | fill : Changes registry test (test.fill registry)
  /-- A feature of tests is added that was made from the registry and has a block. -/
  | add {feature : Feature} (made : feature.Made registry)
    (perTest : feature.tag.scope = .perTest) (some : feature.contents ≠ []) :
    Changes registry test (test.add feature)

/-- What a suite becomes by one operation on it or on one of its tests. A run that knows no limit
changes nothing. -/
inductive Suite.Changes (suite : Suite) : Suite → Prop
  | run {σ : Type} {host : Host σ} {options : RunOptions} {invocation : Invocation}
    {state final : σ} {run : Run} {after : Suite}
    (ran : suite.run host options invocation state = (.ok (run, after), final)) :
    Changes suite after
  | stripSanitizers : Changes suite suite.stripSanitizers
  | test {place : Nat} {test changed : Test} (found : suite.tests[place]? = some test)
    (change : test.Changes suite.registry changed) :
    Changes suite { suite with tests := suite.tests.set place changed }

/-- What a suite becomes by any number of operations. -/
abbrev Suite.Session : Suite → Suite → Prop := Relation.ReflTransGen Suite.Changes

namespace Test

variable {registry : Registry} {test after : Test}

/-- A well-formed test stays so whatever is done to it. -/
theorem Changes.wellFormed (change : test.Changes registry after)
    (wellFormed : test.WellFormed registry) : after.WellFormed registry := by
  cases change with
  | run host invocation limit state =>
    -- A run records what came of it, and nothing else.
    refine ⟨?_, ?_⟩
    · rw [run_eq, features_settle]
      exact wellFormed.features
    · rw [run_eq, features_settle, filled_settle]
      exact wellFormed.filled_iff
  | recordRun output failed => exact ⟨wellFormed.features, wellFormed.filled_iff⟩
  | setLastRunFailed failed => exact ⟨wellFormed.features, wellFormed.filled_iff⟩
  | fill => exact wellFormed.fill
  | add made perTest some => exact wellFormed.add perTest some made.settled

/-- A filled test stays filled whatever is done to it. -/
theorem Changes.filled (change : test.Changes registry after) (filled : test.filled = true) :
    after.filled = true := by
  -- No change takes the mark away, and filling sets it.
  cases change with
  | run host invocation limit state => rw [run_eq, filled_settle, filled]
  | recordRun output failed => exact filled
  | setLastRunFailed failed => exact filled
  | fill => rfl
  | add made perTest some => simp [Test.add, filled]

/-- What every change of a test keeps is kept by all of them together. -/
theorem kept_of_changes {property : Test → Prop}
    (kept : ∀ before after, Changes registry before after → property before → property after)
    (changes : Relation.ReflTransGen (Changes registry) test after) (own : property test) :
    property after := by
  -- The induction is on the changes that were made, the last one last.
  induction changes with
  | refl => exact own
  | tail _ change ih => exact kept _ _ change ih

/-- What becomes of a test in a run of its suite, it becomes by changes of its own: it is run if it
is suitable, and then it may be filled. -/
theorem changes_result {σ : Type} (host : Host σ) (registry : Registry) (mode : Mode)
    (invocation : Invocation) (limit : Duration) (test : Test) (state : σ) :
    Relation.ReflTransGen (Changes registry) test
      (test.result host registry mode invocation limit state).2 := by
  have ran : Relation.ReflTransGen (Changes registry) test _ :=
    .single (.run host invocation limit state)
  unfold result
  -- A test that suits is run, and filled as well if it passes in the mode that fills tests.
  split
  · dsimp only
    split
    · cases mode with
      | test => exact ran
      | fill => exact ran.tail .fill
    · exact ran
  · exact .refl

end Test

namespace Suite

variable {suite after later : Suite}

/-- A change of a suite keeps its registry, and each of its tests becomes what stands at its place
by changes of its own. -/
theorem Changes.tests (change : suite.Changes after) : after.registry = suite.registry ∧
    List.Forall₂ (Relation.ReflTransGen (Test.Changes suite.registry)) suite.tests after.tests := by
  cases change with
  | @run σ host options invocation state final run after ran =>
    obtain ⟨time, results, -, listed, -, rfl⟩ := run_eq_ok_iff.1 ran
    -- Every test was met by the run or left as it was.
    have each := forall₂_runTests host suite.registry options.mode invocation time
      (options.breakFail.filter (0 < ·)) suite.tests state
    rw [listed] at each
    refine ⟨rfl, List.forall₂_map_right_iff.2 (each.imp fun test result left => ?_)⟩
    rcases left with rfl | ⟨met, rfl⟩
    · exact .refl
    · exact test.changes_result host suite.registry options.mode invocation time met
  | stripSanitizers =>
    rw [stripSanitizers_eq]
    exact ⟨rfl, List.forall₂_same.2 fun _ _ => .refl⟩
  | @test place test changed found change =>
    refine ⟨rfl, List.forall₂_of_length_eq_of_get (by simp) fun other inside within => ?_⟩
    obtain ⟨known, rfl⟩ := List.getElem?_eq_some_iff.1 found
    -- Only the test at the place that was changed is another one.
    by_cases own : place = other
    · subst own
      simpa using Relation.ReflTransGen.single change
    · simpa [List.getElem_set_of_ne own] using Relation.ReflTransGen.refl

/-- A well-formed suite stays so whatever is done to it. -/
theorem Changes.wellFormed (change : suite.Changes after) (wellFormed : suite.WellFormed) :
    after.WellFormed := by
  obtain ⟨registry, each⟩ := change.tests
  refine ⟨?_, fun test member => ?_⟩
  · -- Only dropping sanitizers touches the features of the file.
    rw [registry]
    cases change with
    | run ran =>
      obtain ⟨-, -, -, -, -, rfl⟩ := run_eq_ok_iff.1 ran
      exact wellFormed.globals
    | stripSanitizers =>
      rw [globals_stripSanitizers]
      cases suite.flags with
      | none => exact wellFormed.globals
      | some flags =>
        exact wellFormed.globals.replace rfl (List.cons_ne_nil _ _)
          (suite.registry.settled_featureOf .flags _)
    | test => exact wellFormed.globals
  · -- Every test comes from the one at its place, changed or not.
    obtain ⟨place, found⟩ := List.getElem?_of_mem member
    obtain ⟨former, before, changes⟩ := exists_getElem?_of_forall₂ each found
    rw [registry]
    exact Test.kept_of_changes (fun _ _ change => change.wellFormed) changes
      (wellFormed.tests former (List.mem_of_getElem? before))

/-- There is a filled test at a place. -/
def FilledAt (suite : Suite) (place : Nat) : Prop :=
  ∃ test, suite.tests[place]? = some test ∧ test.filled = true

/-- No change of a suite leaves the place of a filled test unfilled. -/
theorem Changes.filledAt (change : suite.Changes after) {place : Nat}
    (filled : suite.FilledAt place) : after.FilledAt place := by
  obtain ⟨test, found, mark⟩ := filled
  -- The test at this place was changed step by step, and no step takes the mark away.
  obtain ⟨again, there, changes⟩ := exists_getElem?_of_forall₂ change.tests.2.flip found
  exact ⟨again, there, Test.kept_of_changes (fun _ _ change => change.filled) changes mark⟩

/-- A session keeps the registry of a suite, its form, the number of its tests, and what is
filled. -/
theorem Session.kept (session : suite.Session after) :
    after.registry = suite.registry ∧ (suite.WellFormed → after.WellFormed) ∧
      after.tests.length = suite.tests.length ∧
        ∀ place, suite.FilledAt place → after.FilledAt place := by
  induction session with
  | refl => exact ⟨rfl, id, rfl, fun _ => id⟩
  | tail _ change ih =>
    -- What holds after the former operations holds after one more.
    obtain ⟨registry, wellFormed, length, filled⟩ := ih
    exact ⟨change.tests.1.trans registry, change.wellFormed ∘ wellFormed,
      change.tests.2.length_eq.symm.trans length,
      fun place own => change.filledAt (filled place own)⟩

/--
A session keeps a suite well-formed.

The suite may come from any text, in either format. Then it may be run in either mode on any host,
its tests may be run, recorded, marked, filled or given more features one by one, and its sanitizers
may be dropped, any number of times and in any order. Features stay where their tags belong, each
with a block and a separator that its modifiers explain, and the mark of a test agrees with its
expected output, which alone decides the mode that the test suits. What is filled once stays so.
-/
theorem session_wellFormed {registry : Registry} {options : ReadOptions} {raw : Text}
    (read : Suite.read registry options raw = .ok suite) (session : suite.Session after) :
    after.registry = registry ∧ after.WellFormed ∧
      (∀ test ∈ after.tests, ∀ mode : Mode, mode.suits test = true ↔
        mode = if test.features.get? .output = none then .fill else .test) ∧
      ∀ later, after.Session later → later.tests.length = after.tests.length ∧
        ∀ place, after.FilledAt place → later.FilledAt place := by
  obtain ⟨same, kept, -, -⟩ := session.kept
  -- The suite was well-formed as it was read, and no operation changed that.
  have wellFormed := kept (wellFormed_of_read read)
  refine ⟨same.trans (registry_of_read read), wellFormed,
    fun test member mode => (wellFormed.tests test member).suits_iff, fun later further => ?_⟩
  exact ⟨further.kept.2.2.1, further.kept.2.2.2⟩

/-- A test is filled by a run, then the sanitizers are dropped, the test gets a shuffled output with
another separator, and it is run and fails. -/
theorem session_wellFormed_grown :
    let raw : Text := "FLAGS /\x7b-fsanitize=leak\x7d/ INPUT /\x7b1\x7d/".toList
    let more : Feature :=
      (((Registry.builtin.feature .output).push ['2']).apply .shuffled).apply .endNone
    ∃ suite after, Suite.read .builtin {} raw = .ok suite ∧ suite.Session after ∧
      after.flags = some [] ∧ after.tests.map Test.lastRunFailed = [some true] ∧
      after.tests.map (fun test => test.features.get? .output) =
        [some ⟨.output, ["4\n".toList, ['2']], more.modifiers, []⟩] ∧
      after.WellFormed ∧ (∀ test ∈ after.tests, Mode.test.suits test = true) ∧
      ∀ later, after.Session later → later.FilledAt 0 := by
  intro raw more
  have balanced : Block.Balanced raw := ⟨by decide +kernel, by decide +kernel⟩
  have read := @read_of_balanced .builtin {} raw rfl balanced
  let suite := ofBlocks .builtin (Block.ranked (Text.normalizeLines raw))
  let printed : List ScriptedRun := [.ends (.ok (.completed "4\n".toList))]
  have ran : suite.run (Host.scripted []) ⟨.fill, none, some ⟨0⟩⟩ ⟨[], []⟩ printed =
      (.ok (_, _), _) := run_eq_ok_iff.2 ⟨⟨0⟩, _, rfl, runTests_none .., rfl, rfl⟩
  have made : more.Made .builtin := (((Feature.Made.feature .output).push _).apply _).apply _
  -- Tests are filled, sanitizers dropped, an output added, and the test is run once more.
  have session : suite.Session _ := .tail (.tail (.tail (.single (.run ran)) .stripSanitizers)
    (.test (List.getElem?_eq_getElem (i := 0) (by decide +kernel))
      (.add made rfl (by decide +kernel))))
    (.test (List.getElem?_eq_getElem (i := 0) (by decide +kernel))
      (.run (Host.scripted []) ⟨[], []⟩ ⟨0⟩ printed))
  -- From here on the test stays filled.
  obtain ⟨-, wellFormed, suits, later⟩ := session_wellFormed read session
  refine ⟨suite, _, read, session, by decide +kernel, by decide +kernel, by decide +kernel,
    wellFormed, fun test member => ?_, fun final further => ?_⟩
  · refine (suits test member .test).2 ?_
    revert test
    decide +kernel
  · exact (later final further).2 0 ⟨_, List.getElem?_eq_getElem (by decide +kernel),
      by decide +kernel⟩

end Suite

end TaggedTests
