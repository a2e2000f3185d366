import TaggedTests.Proofs.Suite.Tidy

/-!
Well-formed suites: features lie where their tags belong, none is without a block, separators go
with modifiers, and a test is marked as filled by its expected output.
-/

namespace TaggedTests

/-- A container of features of one scope, each kept under its own tag, with a block at least, and
joined by the separator that a modifier of it forces or else by that of its tag. -/
structure Features.WellFormed (registry : Registry) (scope : Scope) (features : Features) :
    Prop where
  ofScope : ∀ tag feature, features.get? tag = some feature → tag.scope = scope
  keyed : features.Keyed
  blocks : features.HaveBlocks
  settled : ∀ tag feature, features.get? tag = some feature → feature.Settled registry

/-- A test of features of tests that is marked as filled exactly when it has an expected output. -/
structure Test.WellFormed (registry : Registry) (test : Test) : Prop where
  features : test.features.WellFormed registry .perTest
  filled_iff : test.filled = true ↔ test.features.get? .output ≠ none

/-- A suite with features of the file in the file and those of tests in the tests. -/
structure Suite.WellFormed (suite : Suite) : Prop where
  globals : suite.globals.WellFormed suite.registry .global
  tests : ∀ test ∈ suite.tests, test.WellFormed suite.registry

/-- A feature with one block has the separator of its tag. -/
theorem Registry.settled_featureOf (registry : Registry) (tag : Tag) (content : Text) :
    (registry.featureOf tag [content]).Settled registry :=
  (registry.made_featureOf tag content).settled

namespace Features

variable {registry : Registry} {scope : Scope} {features : Features} {feature : Feature}

/-- The container without features is well-formed, whatever it is for. -/
theorem wellFormed_empty : Features.empty.WellFormed registry scope where
  -- There is no feature of which anything has to hold.
  ofScope tag feature found := by simp at found
  keyed := keyed_empty
  blocks := haveBlocks_empty
  settled tag feature found := by simp at found

/-- A well-formed container stays so when a feature of its scope is added. -/
theorem WellFormed.add (wellFormed : features.WellFormed registry scope)
    (own : feature.tag.scope = scope) (some : feature.contents ≠ [])
    (settled : feature.Settled registry) : (features.add feature).WellFormed registry scope where
  ofScope tag found located := by
    rcases cases_of_get?_add located with ⟨rfl, -⟩ | ⟨former, present, -, -⟩ | ⟨-, before⟩
    · exact own
    · exact wellFormed.ofScope tag former present
    · exact wellFormed.ofScope tag found before
  keyed := wellFormed.keyed.add feature
  blocks := wellFormed.blocks.add some
  settled tag found located := by
    -- Merging two settled features gives a settled one.
    rcases cases_of_get?_add located with ⟨-, rfl⟩ | ⟨former, present, -, rfl⟩ | ⟨-, before⟩
    · exact settled
    · exact (wellFormed.settled tag former present).merge settled
    · exact wellFormed.settled tag found before

/-- A well-formed container stays so when a feature of its scope takes the place of another. -/
theorem WellFormed.replace (wellFormed : features.WellFormed registry scope)
    (own : feature.tag.scope = scope) (some : feature.contents ≠ [])
    (settled : feature.Settled registry) :
    (features.replace feature).WellFormed registry scope where
  -- What is found is the new feature, of which all this is given, or was there before.
  ofScope tag found located := by
    rcases cases_of_get?_replace located with ⟨rfl, -⟩ | ⟨-, before⟩
    · exact own
    · exact wellFormed.ofScope tag found before
  keyed := wellFormed.keyed.replace feature
  blocks := wellFormed.blocks.replace some
  settled tag found located := by
    rcases cases_of_get?_replace located with ⟨-, rfl⟩ | ⟨-, before⟩
    · exact settled
    · exact wellFormed.settled tag found before

/-- The features that blocks leave in a file are well-formed. -/
theorem wellFormed_ofEntries (registry : Registry) (entries : List Entry) :
    (ofEntries registry entries).WellFormed registry .global := by
  -- Only blocks for the file are added, each as a feature with one block.
  refine List.foldlRecOn _ _ wellFormed_empty fun _ before entry member =>
    before.add ?_ (by simp) (entry.made_feature registry).settled
  have file : entry.perTest = false := by simpa using (List.mem_filter.1 member).2
  rw [Entry.tag_feature]
  exact Entry.perTest_eq_false.1 file

end Features

namespace Test

variable {registry : Registry} {test : Test} {feature : Feature}

/-- A test without features is well-formed. -/
theorem wellFormed_empty (registry : Registry) (title : Text) :
    (Test.empty title).WellFormed registry :=
  ⟨Features.wellFormed_empty, by simp [Test.empty]⟩

/-- A well-formed test stays so when a feature of a test is added. -/
theorem WellFormed.add (wellFormed : test.WellFormed registry)
    (perTest : feature.tag.scope = .perTest) (some : feature.contents ≠ [])
    (settled : feature.Settled registry) : (test.add feature).WellFormed registry :=
  ⟨wellFormed.features.add perTest some settled, filled_iff_add wellFormed.filled_iff feature⟩

/-- A well-formed test stays so when it adopts what was printed. -/
theorem WellFormed.fill (wellFormed : test.WellFormed registry) :
    (test.fill registry).WellFormed registry :=
  ⟨wellFormed.features.replace rfl (List.cons_ne_nil _ _) (registry.settled_featureOf .output _),
    test.filled_iff_fill registry⟩

/-- The test of a group of blocks is well-formed. -/
theorem wellFormed_ofGroup (registry : Registry) (title : Text) (group : List Entry) :
    (ofGroup registry title group).WellFormed registry := by
  refine List.foldlRecOn _ _ (wellFormed_empty registry title) fun _ before entry member =>
    before.add ?_ (by simp) (entry.made_feature registry).settled
  -- The entries that are added were kept for having tags of tests.
  have perTest : entry.perTest = true := (List.mem_filter.1 member).2
  rw [Entry.tag_feature]
  simpa [Entry.perTest] using perTest

/-- A well-formed test suits the one mode that its expected output decides. -/
theorem WellFormed.suits_iff (wellFormed : test.WellFormed registry) {mode : Mode} :
    mode.suits test = true ↔
      mode = if test.features.get? .output = none then .fill else .test := by
  have mark := wellFormed.filled_iff
  cases mode <;> cases filled : test.filled <;> simp_all [Mode.suits]

end Test

/-- Whatever is read, in either format, is well-formed. -/
theorem Suite.wellFormed_of_read {registry : Registry} {options : ReadOptions} {raw : Text}
    {suite : Suite} (read : Suite.read registry options raw = .ok suite) : suite.WellFormed := by
  rcases read_cases read with ⟨-, -, rfl⟩ | ⟨-, -, legacy⟩
  · -- The blocks of the file are in the globals, and each group of the others makes a test.
    obtain ⟨groups, -, divided⟩ :=
      exists_divided_ofBlocks registry (Block.ranked (Text.normalizeLines raw))
    refine ⟨?_, fun test member => ?_⟩
    · rw [globals_ofBlocks]
      exact Features.wellFormed_ofEntries registry _
    · rw [divided.tests] at member
      obtain ⟨place, inside, rfl⟩ := List.mem_mapIdx.1 member
      exact Test.wellFormed_ofGroup registry (Test.titleAt place) groups[place]
  · -- Nothing is for the file, and each section makes a test.
    obtain ⟨tests, sections, rfl⟩ := readLegacy_eq_ok_iff.1 legacy
    refine ⟨Features.wellFormed_empty, fun test member => ?_⟩
    obtain ⟨place, found⟩ := List.getElem?_of_mem member
    exact Sections.readSections_of_kept (fun _ => Test.wellFormed_empty registry _)
      (fun _ _ tag content perTest wellFormed =>
        wellFormed.add perTest (List.cons_ne_nil _ _) (registry.settled_featureOf tag content))
      sections found

end TaggedTests
