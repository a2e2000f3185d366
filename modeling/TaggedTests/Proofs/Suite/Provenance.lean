import TaggedTests.Proofs.Suite.Grouping
import TaggedTests.Proofs.Test.Made

/-! Where a suite that was read comes from: the registry makes its features, and the text their
blocks. -/

namespace TaggedTests

namespace Text

variable {c : Char} {text : Text}

/-- A part of a text between two places has no character that the text does not have. -/
theorem not_mem_slice (absent : c ∉ text) (start stop : Nat) : c ∉ slice start stop text :=
  fun inside => absent (List.mem_of_mem_drop (List.mem_of_mem_take inside))

/-- Uniform line ends leave no carriage return. -/
theorem return_not_mem_normalizeLines (text : Text) : '\r' ∉ normalizeLines text := by
  fun_induction normalizeLines text with
  | case1 => simp
  | case2 rest ih => simpa using ih
  | case3 c rest _ ih =>
    simp only [List.mem_cons, not_or]
    refine ⟨?_, ih⟩
    -- A return becomes a newline, and other characters are no returns.
    split
    · decide
    · next other => exact Ne.symm other

end Text

/-- The content of a block is a part of the text that the block was read from. -/
theorem Block.not_mem_content_of_mem_ranked {text : Text} {block : Block} {c : Char}
    (member : block ∈ ranked text) (absent : c ∉ text) : c ∉ block.content := by
  obtain ⟨rank, -, rfl⟩ := List.mem_map.1 member
  exact Text.not_mem_slice absent _ _

/-- All blocks of a container have a property. -/
def Features.Each (property : Text → Prop) (features : Features) : Prop :=
  ∀ tag feature, features.get? tag = some feature → ∀ content ∈ feature.contents, property content

/-- All blocks of a suite have a property. -/
structure Suite.Each (property : Text → Prop) (suite : Suite) : Prop where
  globals : suite.globals.Each property
  tests : ∀ test ∈ suite.tests, test.features.Each property

namespace Features

variable {property : Text → Prop} {features : Features} {feature : Feature}

/-- Blocks that have a property have every property that follows from it. -/
theorem Each.mono {other : Text → Prop} (each : features.Each property)
    (weaker : ∀ content, property content → other content) : features.Each other :=
  fun tag feature found content member => weaker content (each tag feature found content member)

/-- The container without features has no blocks. -/
theorem each_empty : Features.empty.Each property := by
  intro tag feature found
  simp at found

/-- Blocks that are added with a feature join those that are there or take their place. -/
theorem Each.add (each : features.Each property)
    (more : ∀ content ∈ feature.contents, property content) :
    (features.add feature).Each property := by
  intro tag found located content member
  rcases cases_of_get?_add located with ⟨-, rfl⟩ | ⟨former, present, -, rfl⟩ | ⟨-, before⟩
  · exact more content member
  · -- Merged blocks are those of both features or of the newer one.
    simp only [Feature.merge] at member
    cases scope : former.tag.scope with
    | global => exact more content (by simpa [scope] using member)
    | perTest =>
      rcases List.mem_append.1 (by simpa [scope] using member) with old | new
      · exact each tag former present content old
      · exact more content new
  · exact each tag found before content member

end Features

namespace Entry

variable {registry : Registry}

/-- The feature that a block makes is made from the registry. -/
theorem made_feature (registry : Registry) (entry : Entry) :
    (entry.feature registry).Made registry := by
  -- The block is pushed, and its modifiers are recorded one by one.
  unfold Entry.feature Progress.featureOf Feature.applyAll
  refine List.foldlRecOn entry.block.modifiers Feature.apply ?_ fun _ made modifier _ =>
    made.apply modifier
  exact (Feature.Made.feature entry.tag).push entry.block.content

/-- The blocks of entries are those that the entries were made of. -/
theorem block_mem_of_mem_entries {blocks : List Block} {entry : Entry}
    (member : entry ∈ Block.entries blocks) : entry.block ∈ blocks := by
  obtain ⟨place, inside, rfl⟩ := List.mem_mapIdx.1 member
  exact List.getElem_mem inside

end Entry

namespace Test

variable {registry : Registry} {title : Text} {group : List Entry}

/-- A test that a group of blocks makes is made from the registry. -/
theorem made_ofGroup : (ofGroup registry title group).Made registry :=
  List.foldlRecOn _ _ (.empty title) fun _ made entry _ => made.add (entry.made_feature registry)

/-- The blocks of a test are those of its group. -/
theorem each_ofGroup {property : Text → Prop}
    (each : ∀ entry ∈ group, property entry.block.content) :
    (ofGroup registry title group).features.Each property := by
  -- Each entry adds its own content to what is there.
  refine List.foldlRecOn _ _ (motive := fun test : Test => test.features.Each property)
    Features.each_empty fun _ before entry member => before.add ?_
  simpa using each entry (List.mem_of_mem_filter member)

end Test

namespace Features

variable {registry : Registry} {entries : List Entry}

/-- The features of a file are made from the registry. -/
theorem made_ofEntries : (ofEntries registry entries).Made registry :=
  List.foldlRecOn _ _ .empty fun _ made entry _ => made.add (entry.made_feature registry)

/-- The blocks of a file are among those that were read. -/
theorem each_ofEntries {property : Text → Prop}
    (each : ∀ entry ∈ entries, property entry.block.content) :
    (ofEntries registry entries).Each property := by
  refine List.foldlRecOn _ _ each_empty fun _ before entry member => before.add ?_
  simpa using each entry (List.mem_of_mem_filter member)

end Features

namespace Suite

variable {registry : Registry} {property : Text → Prop} {blocks : List Block}

/-- What blocks make is made from the registry. -/
theorem made_ofBlocks (registry : Registry) (blocks : List Block) :
    (ofBlocks registry blocks).globals.Made registry ∧
      ∀ test ∈ (ofBlocks registry blocks).tests, test.Made registry := by
  obtain ⟨groups, -, divided⟩ := exists_divided_ofBlocks registry blocks
  refine ⟨?_, fun test member => ?_⟩
  · -- Both are made of entries, the tests group by group.
    rw [globals_ofBlocks]
    exact Features.made_ofEntries
  · rw [divided.tests] at member
    obtain ⟨place, inside, rfl⟩ := List.mem_mapIdx.1 member
    exact Test.made_ofGroup

/-- What blocks make has no other blocks. -/
theorem each_ofBlocks (registry : Registry) (each : ∀ block ∈ blocks, property block.content) :
    (ofBlocks registry blocks).Each property := by
  obtain ⟨groups, -, divided⟩ := exists_divided_ofBlocks registry blocks
  have entries : ∀ entry ∈ Block.entries blocks, property entry.block.content :=
    fun entry member => each _ (Entry.block_mem_of_mem_entries member)
  refine ⟨?_, fun test member => ?_⟩
  · rw [globals_ofBlocks]
    exact Features.each_ofEntries entries
  · rw [divided.tests] at member
    obtain ⟨place, inside, rfl⟩ := List.mem_mapIdx.1 member
    -- The group is a part of all that was read.
    refine Test.each_ofGroup fun entry own => entries entry ?_
    rw [← divided.whole]
    exact List.mem_flatten.2 ⟨_, List.getElem_mem inside, own⟩

/-- Blocks make one test at least. -/
theorem tests_ofBlocks_ne_nil (registry : Registry) (blocks : List Block) :
    (ofBlocks registry blocks).tests ≠ [] := by
  simp [ofBlocks, Progress.tests]

end Suite

end TaggedTests
