import TaggedTests.Proofs.Suite.Stripping

/-! A suite that was read is written in one way only: what is written does not change when it is
read back and written again. -/

namespace TaggedTests

namespace Feature

/-- A feature is written as before when it was read back, if it has a block or ends its blocks with
newlines. -/
theorem render_reread {feature : Feature}
    (settled : feature.contents ≠ [] ∨ feature.separator = ['\n']) :
    feature.reread.render = feature.render := by
  by_cases none : feature.contents = []
  · -- The empty block that takes the place of none is followed by a newline and an empty line.
    have newline := settled.resolve_left (not_not.2 none)
    have again : feature.reread.contents = [[]] := by simp [reread, withContents, none]
    have heading : feature.reread.heading = feature.heading := rfl
    have separator : feature.reread.separator = ['\n'] := newline
    simp [render, heading, separator, again, none]
  · rw [reread_of_blocks none]

/-- Joining the blocks of a feature twice is joining them once. -/
@[simp] theorem collapsed_collapsed (feature : Feature) :
    feature.collapsed.collapsed = feature.collapsed := by
  simp [collapsed, merged]

end Feature

namespace Test

variable {registry : Registry} {test : Test} {title : Text}

/-- A test is read back under the title of its place. -/
theorem title_reread : (test.reread registry title).title = title :=
  List.foldlRecOn _ _ (motive := fun read : Test => read.title = title) rfl
    fun _ kept _ _ => kept

end Test

namespace Render

variable {registry : Registry} {test : Test}

/-- The features that are written of a test are those that were read back. -/
theorem testFeatures_reread (keyed : test.features.Keyed) (title : Text) :
    testFeatures registry (test.reread registry title) =
      (testFeatures registry test).map Feature.reread := by
  -- The comment is there in any case once it was read back.
  have first : comment registry (test.reread registry title) =
      (comment registry test).reread := by
    rw [comment, Test.get?_reread keyed, if_neg fun listed => (mem_otherTags.1 listed).2 rfl,
      if_pos rfl, Option.getD_some]
  rw [testFeatures_eq, testFeatures_eq, first, List.map_cons, List.map_filterMap]
  refine congrArg _ (List.filterMap_congr fun tag listed => ?_)
  rw [Test.get?_reread keyed, if_pos listed]

/-- A tidy test is written as before when it was read back at its place. -/
theorem testText_reread (made : test.Made registry) {place : Nat} (tidy : test.TidyAt place)
    (newline : (registry.spec .comment).separator = ['\n']) :
    testText registry (test.reread registry (Test.titleAt place)) = testText registry test := by
  have line : titleLine (test.reread registry (Test.titleAt place)) = titleLine test := by
    rw [titleLine, titleLine, Test.title_reread, Test.filled_reread made, tidy.title]
  rw [testText, testText, line, testFeatures_reread made.features.keyed, List.flatMap_map]
  refine congrArg _ (List.flatMap_congr fun feature member => Feature.render_reread ?_)
  -- Only a comment that stands for a missing one has no block.
  obtain rfl | ⟨tag, -, found⟩ := eq_or_get?_of_mem member
  · exact Or.inr newline
  · exact Or.inl (tidy.blocks tag feature found)

/-- Features of the file are written as before when each was read back as a single block. -/
theorem globalFeatures_collapsed {globals reloaded : Features}
    (back : ∀ tag, tag.scope = .global →
      reloaded.get? tag = (globals.get? tag).map Feature.collapsed) :
    globalFeatures registry reloaded = globalFeatures registry globals := by
  -- The blocks were joined when they were written, and joining a single one changes nothing.
  have each : (registry.ordered .global).filterMap reloaded.get? =
      ((registry.ordered .global).filterMap globals.get?).map Feature.collapsed := by
    rw [List.map_filterMap]
    exact List.filterMap_congr fun tag listed => back tag (Registry.mem_ordered.1 listed)
  rw [globalFeatures, globalFeatures, each, List.map_map]
  exact congrArg (List.map · _) (funext Feature.collapsed_collapsed)

end Render

namespace Suite

variable {registry : Registry} {suite reloaded : Suite}

/-- A tidy suite is written as before when it was read back. -/
theorem ReadBack.render_eq (back : suite.ReadBack reloaded) (legible : suite.Legible)
    (tidy : suite.Tidy) (newline : (suite.registry.spec .comment).separator = ['\n']) :
    reloaded.render = suite.render := by
  -- The file has its features, each as one block.
  have globals : Render.globalFeatures suite.registry reloaded.globals =
      Render.globalFeatures suite.registry suite.globals :=
    Render.globalFeatures_collapsed fun tag global => by rw [back.globals, if_pos global]
  have tests : reloaded.tests.map (Render.testText suite.registry) =
      suite.tests.map (Render.testText suite.registry) := by
    -- Each test was read back under the number of its own place.
    rw [back.tests]
    refine List.ext_getElem? fun place => ?_
    rw [List.getElem?_map, List.getElem?_map, List.getElem?_mapIdx]
    cases found : suite.tests[place]? with
    | none => rfl
    | some test =>
      exact congrArg some (Render.testText_reread
        (legible.madeTests test (List.mem_of_getElem? found)) (tidy place test found) newline)
  simp only [Suite.render, TaggedTests.render, back.registry, globals, List.flatMap_def, tests]

/-- Whether tests are expected to be filled makes no difference to bracketed blocks, nor to a text
in which there are no tests. -/
theorem read_of_options {options other : ReadOptions} {raw : Text}
    (read : Suite.read registry options raw = .ok suite) (same : other.format = options.format)
    (bare : suite.format = .legacy → suite.tests = []) :
    Suite.read registry other raw = .ok suite := by
  -- A bracketed file is read whatever is asked of sections.
  rcases read_cases read with ⟨bracketed, balanced, rfl⟩ | ⟨equal, fallback, legacy⟩
  · exact read_of_balanced (same.trans bracketed) balanced
  · obtain ⟨tests, sections, rfl⟩ := readLegacy_eq_ok_iff.1 legacy
    obtain rfl : tests = [] := bare rfl
    -- A section would have made a test.
    have none : Sections.ofText (Text.normalizeLines raw) = [] := by
      unfold Sections.read at sections
      cases texts : Sections.ofText (Text.normalizeLines raw) with
      | nil => rfl
      | cons text rest =>
        rw [texts] at sections
        obtain ⟨test, others, -, -, some⟩ := Sections.readSections_cons_eq_ok_iff.1 sections
        cases some
    rw [read_of_fallback equal (same ▸ fallback)]
    refine readLegacy_eq_ok_iff.2 ⟨[], ?_, by rw [same]⟩
    rw [Sections.read, none]
    rfl

/-- A suite that comes from a text whose blocks hold no brackets, after any number of changes. -/
inductive Arisen (registry : Registry) : Suite → Prop
  | read {suite : Suite} {options : ReadOptions} {raw : Text}
    (read : Suite.read registry options raw = .ok suite)
    (unbracketed : suite.Each Text.Unbracketed) : Arisen registry suite
  /-- Its sanitizers may be dropped. -/
  | stripped {suite : Suite} (arisen : Arisen registry suite) :
    Arisen registry suite.stripSanitizers
  /-- Its tests may be filled with what may stand between brackets. -/
  | filled {suite after : Suite} (arisen : Arisen registry suite) {σ : Type} {host : Host σ}
    {breakFail : Option Nat} {limit : Option Duration} {invocation : Invocation} {state final : σ}
    {run : Run}
    (ran : suite.run host ⟨.fill, breakFail, limit⟩ invocation state = (.ok (run, after), final))
    (harmless : ∀ place test output, suite.NewlyFilled after place test →
      test.captured = some output → output.Plain) : Arisen registry after

/-- A suite keeps its registry through all changes, can be written and read back, and is tidy. -/
theorem Arisen.kept (arisen : Arisen registry suite) :
    suite.registry = registry ∧ suite.Legible ∧ suite.Tidy := by
  -- Reading makes such a suite, and dropping sanitizers and filling tests keep it so.
  induction arisen with
  | read read unbracketed =>
    exact ⟨registry_of_read read, legible_of_read read unbracketed, tidy_of_read read⟩
  | stripped _ ih =>
    obtain ⟨same, legible, tidy⟩ := ih
    exact ⟨by rw [stripSanitizers_eq, same], legible.stripSanitizers, tidy.stripSanitizers⟩
  | filled _ ran harmless ih =>
    obtain ⟨same, legible, tidy⟩ := ih
    exact ⟨(refilled_of_run ran).1.trans same, legible.of_run ran harmless, tidy.of_run ran⟩

/--
What is written of a suite can be read, and is written in the same way again.

The suite may come from any text, in either format, whose blocks hold no brackets. Its sanitizers
may have been dropped and its tests filled, any number of times and in any order, with outputs that
may stand between brackets. Separators mean nothing in prose, and a comment ends its blocks with
newlines.
-/
theorem Arisen.render_stable (arisen : Arisen registry suite)
    (separators : registry.InertSeparators)
    (newline : (registry.spec .comment).separator = ['\n']) (options : ReadOptions)
    (bracketed : options.format = .bracketed) :
    ∃ reloaded, Suite.read registry options suite.render = .ok reloaded ∧
      reloaded.render = suite.render := by
  obtain ⟨rfl, legible, tidy⟩ := arisen.kept
  obtain ⟨reloaded, read, back⟩ := legible.read_back separators
  refine ⟨reloaded, read_of_options read bracketed fun legacy => ?_,
    back.render_eq legible tidy newline⟩
  -- With a test, bracketed blocks were written and read.
  by_contra some
  have tests : suite.tests ≠ [] := fun none => some (by rw [back.tests, none]; rfl)
  exact absurd (legacy.symm.trans (back.format tests)) (by decide)

/-- Flags with a sanitizer, and a test that is filled, without a comment and with two modifiers that
force separators. -/
theorem Arisen.render_stable_filled :
    let raw : Text :=
      "FLAGS /\x7b-O -fsanitize=leak\x7d/ INPUT mENDSPACE mENDNONE /\x7b1\x7d/ /\x7b2\x7d/".toList
    ∃ suite run after final reloaded, Suite.read .builtin {} raw = .ok suite ∧
      suite.stripSanitizers.run (Host.scripted []) ⟨.fill, none, some ⟨0⟩⟩ ⟨[], []⟩
        [.ends (.ok (.completed "4\n".toList))] = (.ok (run, after), final) ∧
      after.tests.map Test.filled = [true] ∧
      Suite.read .builtin {} after.render = .ok reloaded ∧ reloaded.render = after.render := by
  intro raw
  have balanced : Block.Balanced raw := ⟨by decide +kernel, by decide +kernel⟩
  have read := @read_of_balanced .builtin {} raw rfl balanced
  have unbracketed := each_ofBlocks .builtin (by decide +kernel :
    ∀ block ∈ Block.ranked (Text.normalizeLines raw), block.content.Unbracketed)
  let suite := (ofBlocks .builtin (Block.ranked (Text.normalizeLines raw))).stripSanitizers
  have ran : suite.run (Host.scripted []) ⟨.fill, none, some ⟨0⟩⟩ ⟨[], []⟩
      [.ends (.ok (.completed "4\n".toList))] = (.ok (_, _), _) :=
    run_eq_ok_iff.2 ⟨⟨0⟩, _, rfl, runTests_none .., rfl, rfl⟩
  -- The suite was read, its sanitizers were dropped, and its test was filled with a plain output.
  have arisen := Arisen.filled (.stripped (.read read unbracketed)) ran
    fun place test output newly captured =>
      (by decide +kernel : ∀ test ∈ _, ∀ output ∈ test.captured, output.Plain) test newly.mem output
        captured
  -- Writing what was read back gives the same text.
  obtain ⟨reloaded, reads, same⟩ := arisen.render_stable Registry.inertSeparators_builtin rfl {} rfl
  exact ⟨_, _, _, _, reloaded, read, ran, by decide +kernel, reads, same⟩

end Suite

end TaggedTests
