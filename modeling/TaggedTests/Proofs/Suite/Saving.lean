import TaggedTests.Host.Scripted
import TaggedTests.Proofs.Suite.Legible
import TaggedTests.Proofs.Suite.Outcomes

/-! What is left of a test file when it is written again after its tests were filled. -/

namespace TaggedTests

/-- What stands at a place of the second of two related lists has a counterpart in the first. -/
theorem exists_getElem?_of_forall₂ {α β : Type} {related : α → β → Prop} {first : List α}
    {second : List β} (each : List.Forall₂ related first second) {place : Nat} {item : β}
    (found : second[place]? = some item) :
    ∃ counterpart, first[place]? = some counterpart ∧ related counterpart item := by
  obtain ⟨inside, rfl⟩ := List.getElem?_eq_some_iff.1 found
  -- Both lists are of one length, so the place is within either.
  have within : place < first.length := each.length_eq ▸ inside
  exact ⟨first[place], List.getElem?_eq_getElem within, each.get within inside⟩

/-- What stands at one place of two related lists is related. -/
theorem related_of_forall₂ {α β : Type} {related : α → β → Prop} {first : List α}
    {second : List β} (each : List.Forall₂ related first second) {place : Nat} {one : α}
    {other : β} (front : first[place]? = some one) (back : second[place]? = some other) :
    related one other := by
  obtain ⟨counterpart, there, holds⟩ := exists_getElem?_of_forall₂ each back
  rwa [Option.some_inj.1 (front.symm.trans there)]

/-- Merging is not changed by a block that is read back in place of no block. -/
theorem Feature.merged_reread (feature : Feature) : feature.reread.merged = feature.merged := by
  unfold reread
  -- A feature without blocks comes back with an empty one, which joins to the same text.
  split
  · next none => simp [merged, withContents, none]
  · rfl

namespace Test

variable {registry : Registry} {before after test : Test} {title : Text}

/-- A test that is read back has the joined texts that it had, but for a missing comment. -/
theorem merged?_reread (keyed : test.features.Keyed) {tag : Tag} (perTest : tag.scope = .perTest)
    (other : tag ≠ .comment) :
    (test.reread registry title).features.merged? tag = test.features.merged? tag := by
  rw [Features.merged?, get?_reread_of_perTest keyed perTest other, Option.map_map,
    Features.merged?]
  -- A feature that comes back joins to the same text.
  exact congrFun (congrArg Option.map (funext Feature.merged_reread)) _

/-- A missing text is empty, before and after a test is read back. -/
theorem merged_reread (keyed : test.features.Keyed) {tag : Tag} (perTest : tag.scope = .perTest)
    (other : tag ≠ .comment) : (test.reread registry title).merged tag = test.merged tag := by
  rw [merged, merged?_reread keyed perTest other, merged]

/-- What a run that fills tests leaves may stand between brackets if what was printed may. -/
theorem Refilled.plain (refilled : before.Refilled registry after) (plain : before.Plain)
    (harmless : before.filled = false → after.filled = true →
      ∀ output, after.captured = some output → output.Plain) : after.Plain := by
  intro tag feature perTest found
  cases refilled with
  | kept features _ =>
    -- Nothing has changed.
    rw [features] at found
    exact plain tag feature perTest found
  | filled output unfilled filled captured features =>
    -- The expected output is the only feature that is new.
    rw [features] at found
    rcases Features.cases_of_get?_replace found with ⟨-, rfl⟩ | ⟨-, former⟩
    · intro content member
      obtain rfl : content = output := by
        simpa [Registry.featureOf, Feature.withContents] using member
      exact harmless unfilled filled content captured
    · exact plain tag feature perTest former

/-- A test that was filled is read back with what was captured as its expected output. -/
theorem Refilled.expected_reread (refilled : before.Refilled registry after)
    (keyed : after.features.Keyed) (unfilled : before.filled = false)
    (filled : after.filled = true) :
    ∃ output, after.captured = some output ∧
      (after.reread registry title).features.merged? .output = some output := by
  rw [merged?_reread keyed rfl (by decide)]
  -- A test that has become filled was filled with the output that it had captured.
  cases refilled with
  | kept _ same => simp [same, unfilled] at filled
  | filled output _ _ captured features =>
    have adopted : after.features.get? .output = some (registry.featureOf .output [output]) := by
      rw [features]
      exact Features.get?_replace_self before.features (registry.featureOf .output [output])
    refine ⟨output, captured, ?_⟩
    rw [Features.merged?, adopted, Option.map_some, registry.merged_featureOf]

end Test

namespace Suite

/-- The test at a place was filled between two states of a suite. -/
def NewlyFilled (before after : Suite) (place : Nat) (test : Test) : Prop :=
  ∃ former, before.tests[place]? = some former ∧ former.filled = false ∧
    after.tests[place]? = some test ∧ test.filled = true

/-- A test that was filled is one of those that are left. -/
theorem NewlyFilled.mem {before after : Suite} {place : Nat} {test : Test}
    (newly : before.NewlyFilled after place test) : test ∈ after.tests := by
  obtain ⟨-, -, -, found, -⟩ := newly
  exact List.mem_of_getElem? found

/--
A file with bracketed blocks survives being written again after its tests were filled.

What is written can be read, as bracketed blocks, and gives as many tests. Each test that was filled
expects what was captured.
-/
def Survives (before after : Suite) : Prop :=
  ∃ reloaded, read before.registry {} after.render = .ok reloaded ∧ reloaded.format = .bracketed ∧
    reloaded.tests.length = before.tests.length ∧
    ∀ place test, before.NewlyFilled after place test → ∃ output again,
      test.captured = some output ∧ reloaded.tests[place]? = some again ∧ again.filled = true ∧
        again.features.merged? .output = some output

/-- A file does not survive when the brackets that are written differ in number. -/
theorem not_survives_of_unmatched {before after : Suite}
    (unmatched : (Block.opens after.render).length ≠ (Block.closes after.render).length) :
    ¬ before.Survives after := by
  rintro ⟨reloaded, read, -⟩
  -- Either format is read only from equally many brackets of both kinds.
  rcases read_cases read with ⟨-, balanced, -⟩ | ⟨equal, -⟩
  · exact unmatched balanced.equal
  · exact unmatched equal

/-- A file with one test under an inert title, with features in the order of their declaration. -/
theorem render_of_single {suite : Suite} {test : Test} (single : suite.tests = [test])
    (inert : test.title.Inert)
    (perTest : (Tag.ofScope .perTest).Pairwise (suite.registry.precedes · ·))
    (global : (Tag.ofScope .global).Pairwise (suite.registry.precedes · ·)) :
    suite.render = Render.header ++ ['\n', '\n'] ++
      (((Tag.ofScope .global).filterMap suite.globals.get?).map Feature.collapsed).flatMap
        Feature.render ++ Render.banner ++ ['\n', '\n'] ++
      (test.title ++ (if test.filled then [] else " (unfilled)".toList) ++ ['\n', '\n'] ++
        (Render.comment suite.registry test ::
          ((Tag.ofScope .perTest).filter (· ≠ .comment)).filterMap test.features.get?).flatMap
            Feature.render) := by
  -- The orders of the registry are those of the tags, so that nothing has to be sorted.
  rw [Suite.render, TaggedTests.render, single, List.flatMap_singleton, Render.testText,
    Render.titleLine, Render.inertTitle_of_inert inert, Render.globalFeatures, Render.testFeatures,
    Registry.ordered, Registry.ordered, List.mergeSort_of_pairwise global,
    List.mergeSort_of_pairwise perTest]

/-- Filling the tests of a text with what a program prints destroys the file of the text. -/
def DestroyedBy (registry : Registry) (raw output : Text) : Prop :=
  '\r' ∉ output ∧
    ∃ suite run after final, read registry {} raw = .ok suite ∧ suite.format = .bracketed ∧
      suite.run (Host.scripted []) ⟨.fill, none, some ⟨0⟩⟩ ⟨[], []⟩
        [.ends (.ok (.completed output))] = (.ok (run, after), final) ∧ ¬ suite.Survives after

section

variable {registry : Registry} {options : ReadOptions} {raw : Text} {suite after : Suite}

/-- Bracketed blocks give a test at least. -/
theorem tests_ne_nil_of_read (read : Suite.read registry options raw = .ok suite)
    (bracketed : suite.format = .bracketed) : suite.tests ≠ [] := by
  -- Blocks give a test at least, and the older format is another one.
  rcases read_cases read with ⟨-, -, rfl⟩ | ⟨-, -, legacy⟩
  · exact tests_ofBlocks_ne_nil registry _
  · obtain ⟨tests, -, rfl⟩ := readLegacy_eq_ok_iff.1 legacy
    cases bracketed

/-- The registry that a suite was read with stays with it. -/
theorem registry_of_read (read : Suite.read registry options raw = .ok suite) :
    suite.registry = registry := by
  -- Either format keeps the registry that it is read with.
  rcases read_cases read with ⟨-, -, rfl⟩ | ⟨-, -, legacy⟩
  · rfl
  · obtain ⟨tests, -, rfl⟩ := readLegacy_eq_ok_iff.1 legacy
    rfl

end

section

variable {σ : Type} {host : Host σ} {suite after : Suite} {breakFail : Option Nat}
  {limit : Option Duration} {invocation : Invocation} {state final : σ} {run : Run}

/-- A run that fills tests changes the tests alone, and each of them as such a run can. -/
theorem refilled_of_run
    (ran : suite.run host ⟨.fill, breakFail, limit⟩ invocation state = (.ok (run, after), final)) :
    after.registry = suite.registry ∧ after.globals = suite.globals ∧
      List.Forall₂ (fun former test => former.Refilled suite.registry test ∧
        (former.Made suite.registry → test.Made suite.registry)) suite.tests after.tests := by
  obtain ⟨time, results, -, run, -, rfl⟩ := run_eq_ok_iff.1 ran
  have each := forall₂_runTests host suite.registry .fill invocation time
    (breakFail.filter (0 < ·)) suite.tests state
  rw [run] at each
  -- A test that was not met is as it was, and a result that was met is filled or not.
  refine ⟨rfl, rfl, List.forall₂_map_right_iff.2 (each.imp fun former result left => ?_)⟩
  rcases left with rfl | ⟨met, rfl⟩
  · exact ⟨.kept rfl rfl, id⟩
  · exact ⟨Test.refilled_result, Test.Made.result⟩

/-- A suite that can be written can be written after its tests were filled, if what was captured may
stand between brackets. -/
theorem Legible.of_run (legible : suite.Legible)
    (ran : suite.run host ⟨.fill, breakFail, limit⟩ invocation state = (.ok (run, after), final))
    (harmless : ∀ place test output, suite.NewlyFilled after place test →
      test.captured = some output → output.Plain) : after.Legible := by
  obtain ⟨registry, globals, each⟩ := refilled_of_run ran
  -- Every test comes from the one that was at its place.
  have origin : ∀ test ∈ after.tests, test.Made suite.registry ∧ test.Plain := by
    intro test member
    obtain ⟨place, found⟩ := List.mem_iff_getElem?.1 member
    obtain ⟨former, before, refilled, made⟩ := exists_getElem?_of_forall₂ each found
    have inside := List.mem_of_getElem? before
    exact ⟨made (legible.madeTests former inside),
      refilled.plain (legible.plainTests former inside) fun unfilled filled output captured =>
        harmless place test output ⟨former, before, unfilled, found, filled⟩ captured⟩
  exact {
    madeGlobals := by
      rw [registry, globals]
      exact legible.madeGlobals
    madeTests := fun test member => by
      rw [registry]
      exact (origin test member).1
    plainGlobals := by
      rw [globals]
      exact legible.plainGlobals
    plainTests := fun test member => (origin test member).2
    -- A run leaves as many tests as there were.
    bare := fun none => by
      rw [globals]
      refine legible.bare (List.length_eq_zero_iff.1 ?_)
      rw [each.length_eq, none, List.length_nil] }

/--
Writing a file again after a run that filled its tests does not destroy it.

It has to be one of bracketed blocks that hold no brackets themselves, under separators that mean
nothing in prose, and what was captured for the filled tests must be free of brackets and carriage
returns. The run may be cut off, and the host may do whatever it likes.
-/
theorem survives_filling (registry : Registry) (separators : registry.InertSeparators)
    (options : ReadOptions) (raw : Text) (read : Suite.read registry options raw = .ok suite)
    (bracketed : suite.format = .bracketed) (unbracketed : suite.Each Text.Unbracketed)
    (host : Host σ) (breakFail : Option Nat) (limit : Option Duration) (invocation : Invocation)
    (state : σ)
    (ran : suite.run host ⟨.fill, breakFail, limit⟩ invocation state = (.ok (run, after), final))
    (harmless : ∀ place test output, suite.NewlyFilled after place test →
      test.captured = some output → output.Plain) : suite.Survives after := by
  -- The run leaves a suite that can be written and read back, test by test.
  obtain rfl := registry_of_read read
  obtain ⟨same, -, each⟩ := refilled_of_run ran
  have legible := (legible_of_read read unbracketed).of_run ran harmless
  obtain ⟨reloaded, reads, back⟩ := legible.read_back (same ▸ separators)
  have tests := back.tests
  rw [same] at reads tests
  -- A bracketed file has a test, and a run leaves it there.
  have some : after.tests ≠ [] := by
    intro none
    refine tests_ne_nil_of_read read bracketed (List.length_eq_zero_iff.1 ?_)
    rw [each.length_eq, none, List.length_nil]
  refine ⟨reloaded, reads, back.format some, by rw [tests, List.length_mapIdx, each.length_eq], ?_⟩
  rintro place test ⟨former, before, unfilled, found, filled⟩
  -- A test that was newly filled expects its output when it is read back.
  obtain ⟨refilled, -⟩ := related_of_forall₂ each before found
  have made := legible.madeTests test (List.mem_of_getElem? found)
  obtain ⟨output, captured, expected⟩ :=
    @Test.Refilled.expected_reread _ _ _ (Test.titleAt place) refilled made.features.keyed unfilled
      filled
  refine ⟨output, _, captured, ?_, ?_, expected⟩
  · rw [tests, List.getElem?_mapIdx, found, Option.map_some]
  · rw [Test.filled_reread (same ▸ made), filled]

/-- Two tests, of which the first is filled with what the program prints. -/
theorem survives_filling_first :
    let raw : Text := "INPUT /\x7b1\x7d/ INPUT /\x7b2\x7d/ OUTPUT mENDNONE /\x7b2\x7d/".toList
    ∃ suite run after final, read .builtin {} raw = .ok suite ∧
      suite.run (Host.scripted []) ⟨.fill, some 1, some ⟨0⟩⟩ ⟨[], []⟩
        [.ends (.ok (.completed "1\n".toList))] = (.ok (run, after), final) ∧
      suite.Survives after := by
  intro raw
  have balanced : Block.Balanced raw := ⟨by decide +kernel, by decide +kernel⟩
  have read := @read_of_balanced .builtin {} raw rfl balanced
  -- No block holds a bracket, and the output that is captured is plain.
  have unbracketed := each_ofBlocks .builtin (by decide +kernel :
    ∀ block ∈ Block.ranked (Text.normalizeLines raw), block.content.Unbracketed)
  -- The run ends after the first test, which is filled.
  refine ⟨_, _, _, _, read, rfl, survives_filling .builtin Registry.inertSeparators_builtin {} raw
    read rfl unbracketed (Host.scripted []) (some 1) (some ⟨0⟩) ⟨[], []⟩
    [.ends (.ok (.completed "1\n".toList))] rfl fun place test output newly captured => ?_⟩
  exact (by decide +kernel : ∀ test ∈ _, ∀ output ∈ test.captured, output.Plain) test newly.mem
    output captured

/-- A bracket that is printed, a bracket inside a block, or one in a separator destroys a file. -/
theorem destroyed_by_brackets :
    DestroyedBy .builtin "INPUT /\x7bx\x7d/".toList "/\x7b".toList ∧
      DestroyedBy .builtin "/\x7ba/\x7bb\x7d/c\x7d/ INPUT /\x7bx\x7d/".toList "1".toList ∧
      DestroyedBy (Registry.builtin.override .input { separator := some "/\x7b".toList })
        "INPUT /\x7ba\x7d/ /\x7bb\x7d/".toList "1".toList := by
  -- In each of the files written, there are more brackets of one kind than of the other.
  refine ⟨⟨by decide, _, _, _, _, rfl, rfl, rfl, not_survives_of_unmatched ?_⟩,
    ⟨by decide, _, _, _, _, rfl, rfl, rfl, not_survives_of_unmatched ?_⟩,
    ⟨by decide, _, _, _, _, rfl, rfl, rfl, not_survives_of_unmatched ?_⟩⟩ <;>
    rw [render_of_single rfl (by decide) (by decide) (by decide)] <;> decide +kernel

end

end Suite

end TaggedTests
