import TaggedTests.Proofs.Suite.Saving

/-! Suites as reading makes them: tests under numbered titles, and no feature without a block. -/

namespace TaggedTests

/-- Every feature of a container has a block. -/
def Features.HaveBlocks (features : Features) : Prop :=
  ∀ tag feature, features.get? tag = some feature → feature.contents ≠ []

namespace Features

variable {features : Features} {feature : Feature}

/-- The container without features has none without a block. -/
theorem haveBlocks_empty : Features.empty.HaveBlocks := by
  intro tag feature found
  simp at found

/-- A feature that is added may join another one, which then has its blocks. -/
theorem HaveBlocks.add (blocks : features.HaveBlocks) (some : feature.contents ≠ []) :
    (features.add feature).HaveBlocks := by
  intro tag found located
  rcases cases_of_get?_add located with ⟨-, rfl⟩ | ⟨former, -, -, rfl⟩ | ⟨-, before⟩
  · exact some
  · -- The newer blocks are there, whether they were appended or took the place of others.
    cases scope : former.tag.scope <;> simp [Feature.merge, scope, some]
  · exact blocks tag found before

/-- A feature that takes the place of another one has a block of its own. -/
theorem HaveBlocks.replace (blocks : features.HaveBlocks) (some : feature.contents ≠ []) :
    (features.replace feature).HaveBlocks := by
  intro tag found located
  -- What is found is the new feature or was there before.
  rcases cases_of_get?_replace located with ⟨-, rfl⟩ | ⟨-, before⟩
  · exact some
  · exact blocks tag found before

end Features

/-- A test as reading makes it at a place: under the title of the place, with blocks in all of its
features. -/
structure Test.TidyAt (place : Nat) (test : Test) : Prop where
  title : test.title = Test.titleAt place
  blocks : test.features.HaveBlocks

namespace Test

variable {registry : Registry} {test : Test} {place : Nat}

/-- Reading starts a test under the title of its place. -/
theorem tidyAt_empty (place : Nat) : (Test.empty (titleAt place)).TidyAt place :=
  ⟨rfl, Features.haveBlocks_empty⟩

/-- A feature with blocks keeps a test tidy. -/
theorem TidyAt.add (tidy : test.TidyAt place) {feature : Feature} (some : feature.contents ≠ []) :
    (test.add feature).TidyAt place :=
  ⟨tidy.title, tidy.blocks.add some⟩

/-- A group of blocks makes a tidy test. -/
theorem tidyAt_ofGroup (registry : Registry) (place : Nat) (group : List Entry) :
    (ofGroup registry (titleAt place) group).TidyAt place :=
  List.foldlRecOn _ _ (tidyAt_empty place) fun _ tidy _ _ => tidy.add (by simp)

/-- What becomes of a tidy test in a run is tidy. -/
theorem TidyAt.result {σ : Type} (tidy : test.TidyAt place) (host : Host σ) (registry : Registry)
    (mode : Mode) (invocation : Invocation) (limit : Duration) (state : σ) :
    (test.result host registry mode invocation limit state).2.TidyAt place := by
  -- Judging changes neither title nor features, and filling brings in a single block.
  refine result_of_kept tidy (fun attempt => ⟨?_, ?_⟩) fun after kept =>
    ⟨kept.title, kept.blocks.replace (List.cons_ne_nil _ _)⟩
  · rw [title_settle, tidy.title]
  · rw [features_settle]
    exact tidy.blocks

end Test

/-- All tests of a suite are as reading makes them. -/
def Suite.Tidy (suite : Suite) : Prop :=
  ∀ (place : Nat) (test : Test), suite.tests[place]? = some test → test.TidyAt place

namespace Suite

variable {suite after : Suite}

/-- Whatever is read, in either format, is tidy. -/
theorem tidy_of_read {registry : Registry} {options : ReadOptions} {raw : Text}
    (read : Suite.read registry options raw = .ok suite) : suite.Tidy := by
  -- A test is made of a group of bracketed blocks or of a section, numbered in order.
  intro place test found
  rcases read_cases read with ⟨-, -, rfl⟩ | ⟨-, -, legacy⟩
  · obtain ⟨groups, -, divided⟩ :=
      exists_divided_ofBlocks registry (Block.ranked (Text.normalizeLines raw))
    rw [divided.tests, List.getElem?_mapIdx, Option.map_eq_some_iff] at found
    obtain ⟨group, -, rfl⟩ := found
    exact Test.tidyAt_ofGroup registry place group
  · obtain ⟨tests, sections, rfl⟩ := readLegacy_eq_ok_iff.1 legacy
    rw [← Nat.zero_add place]
    exact Sections.readSections_of_kept Test.tidyAt_empty
      (fun _ _ _ _ _ tidy => tidy.add (List.cons_ne_nil _ _)) sections found

/-- A tidy suite is tidy after a run. -/
theorem Tidy.of_run (tidy : suite.Tidy) {σ : Type} {host : Host σ} {options : RunOptions}
    {invocation : Invocation} {state final : σ} {run : Run}
    (ran : suite.run host options invocation state = (.ok (run, after), final)) : after.Tidy := by
  intro place test found
  obtain ⟨time, results, -, listed, -, rfl⟩ := run_eq_ok_iff.1 ran
  have each := forall₂_runTests host suite.registry options.mode invocation time
    (options.breakFail.filter (0 < ·)) suite.tests state
  rw [listed] at each
  rw [List.getElem?_map, Option.map_eq_some_iff] at found
  obtain ⟨result, located, rfl⟩ := found
  -- Every test was left as it is or run, at the place where it was before.
  obtain ⟨former, before, rfl | ⟨met, rfl⟩⟩ := exists_getElem?_of_forall₂ each located
  · exact tidy place former before
  · exact (tidy place former before).result host suite.registry options.mode invocation time met

end Suite

end TaggedTests
